import CustomProps.Proofs.Value.Recursion
import CustomProps.Proofs.Value.Names
import CustomProps.Text.Edit
/-!
# A scan that looks before it reads

The scan of a value once more, as a program performs it that has nothing but offsets: bytes are read
at bare indices and pieces are cut out at bare ranges. A byte at or behind the bound of the search,
a cut within a character, a parenthesis closed that was not open, a search that does not get on, all
these are faults. No value leads to one, and what is found is what the scan finds.
-/
namespace CustomProps.Guarded

inductive Fault where
  /-- The byte lies at or behind the bound of the search, or behind the value. -/
  | byte (index : Nat)
  /-- The range cuts no piece out of its text. -/
  | piece (range : Span)
  /-- The edit does not fit the text as it is after the edits before. -/
  | edit (e : Edit)
  /-- A parenthesis closes where none is open. -/
  | depth
  /-- A search or a scan stays where it is. -/
  | stuck
deriving DecidableEq, Repr

theorem ok_bind {α β : Type} (a : α) (f : α → Except Fault β) : (Except.ok a >>= f) = f a := rfl

/-! ### Reading -/

/-- The byte at `i`, for a search that ends at `stop`. -/
def byte (b : ByteArray) (stop i : Nat) : Except Fault UInt8 :=
  if h : i < stop ∧ i < b.size then .ok b[i] else .error (.byte i)

/-- The four bytes at `i`, for a search that ends at `stop`. -/
def word (b : ByteArray) (stop i : Nat) : Except Fault (List UInt8) :=
  if i + 4 ≤ stop ∧ i + 4 ≤ b.size then .ok (Value.between b i (i + 4)) else .error (.byte (i + 3))

def piece (value : String) (r : Span) : Except Fault String :=
  match r.slice? value with
  | some text => .ok text
  | none => .error (.piece r)

section Read

variable {b : ByteArray} {stop i : Nat}

theorem byte_eq (hs : stop ≤ b.size) (hi : i < stop) : byte b stop i = .ok b[i] :=
  dif_pos ⟨hi, Nat.lt_of_lt_of_le hi hs⟩

theorem word_eq (hs : stop ≤ b.size) (hi : i + 4 ≤ stop) :
    word b stop i = .ok (Value.between b i (i + 4)) :=
  if_pos ⟨hi, Nat.le_trans hi hs⟩

theorem piece_eq {value text : String} {r : Span} (h : r.slice? value = some text) :
    piece value r = .ok text := by
  rw [piece, h]

end Read

/-! ### Searching -/

def stringEnd (b : ByteArray) (stop : Nat) (quote : UInt8) (i : Nat) : Except Fault Nat :=
  if _h : i < stop then do
    let x ← byte b stop i
    if x = Ascii.backslash then stringEnd b stop quote (i + 2)
    else if x = quote then .ok (i + 1)
    else stringEnd b stop quote (i + 1)
  else .ok stop
termination_by stop - i

def skipString (b : ByteArray) (stop i : Nat) : Except Fault Nat := do
  let quote ← byte b stop i
  stringEnd b stop quote (i + 1)

/-- No identifier ends right before `i`. -/
def beginsWord (b : ByteArray) (stop i : Nat) : Except Fault Bool :=
  if i = 0 then .ok true
  else do
    let x ← byte b stop (i - 1)
    .ok (!Ascii.isIdent x)

def findOpen (b : ByteArray) (stop i : Nat) : Except Fault (Option Nat) :=
  if _h : i + 4 ≤ stop then do
    let x ← byte b stop i
    if Ascii.isQuote x then
      let next ← skipString b stop i
      if _hn : i < next then findOpen b stop next else .error .stuck
    else
      let w ← word b stop i
      let found ← if Value.IsOpening w then beginsWord b stop i else .ok false
      if found then .ok (some i) else findOpen b stop (i + 1)
  else .ok none
termination_by stop - i

/-- The parenthesis that closes the outermost of `depth` open ones. -/
def findClose (b : ByteArray) (stop depth i : Nat) : Except Fault (Option Nat) :=
  if _h : i < stop then do
    let x ← byte b stop i
    if Ascii.isQuote x then
      let next ← skipString b stop i
      if _hn : i < next then findClose b stop depth next else .error .stuck
    else if x = Ascii.openParen then findClose b stop (depth + 1) (i + 1)
    else if x = Ascii.closeParen then
      if depth = 0 then .error .depth
      else if depth = 1 then .ok (some i)
      else findClose b stop (depth - 1) (i + 1)
    else findClose b stop depth (i + 1)
  else .ok none
termination_by stop - i

def findComma (b : ByteArray) (stop depth i : Nat) : Except Fault (Option Nat) :=
  if _h : i < stop then do
    let x ← byte b stop i
    if Ascii.isQuote x then
      let next ← skipString b stop i
      if _hn : i < next then findComma b stop depth next else .error .stuck
    else if x = Ascii.openParen then findComma b stop (depth + 1) (i + 1)
    else if x = Ascii.closeParen then findComma b stop (depth - 1) (i + 1)
    else if x = Ascii.comma ∧ depth = 0 then .ok (some i)
    else findComma b stop depth (i + 1)
  else .ok none
termination_by stop - i

section Search

variable {b : ByteArray} {stop : Nat} (hs : stop ≤ b.size)

theorem stringEnd_eq (quote : UInt8) (i : Nat) :
    stringEnd b stop quote i = .ok (Value.stringEnd b hs quote i) := by
  fun_induction Value.stringEnd b hs quote i with
  | case1 i hi hx ih => rw [stringEnd, dif_pos hi, byte_eq hs hi, ok_bind, if_pos hx, ih]
  | case2 i hi hx hq => rw [stringEnd, dif_pos hi, byte_eq hs hi, ok_bind, if_neg hx, if_pos hq]
  | case3 i hi hx hq ih =>
    rw [stringEnd, dif_pos hi, byte_eq hs hi, ok_bind, if_neg hx, if_neg hq, ih]
  | case4 i hi => rw [stringEnd, dif_neg hi]

theorem skipString_eq {i : Nat} (hi : i < stop) :
    skipString b stop i = .ok (Value.skipString b hs i hi) := by
  rw [skipString, byte_eq hs hi, ok_bind, stringEnd_eq hs, Value.skipString]

theorem beginsWord_eq {i : Nat} (hi : i ≤ stop) :
    beginsWord b stop i = .ok (Value.beginsWord b i (Nat.le_trans hi hs)) := by
  unfold beginsWord Value.beginsWord
  by_cases h : i = 0
  · rw [if_pos h, dif_neg (by omega)]
  · rw [if_neg h, dif_pos (by omega), byte_eq hs (by omega), ok_bind]

theorem findOpen_eq (i : Nat) : findOpen b stop i = .ok (Value.findOpen? b hs i) := by
  fun_induction Value.findOpen? b hs i with
  | case1 i hi hq ih =>
    rw [findOpen, dif_pos hi, byte_eq hs (by omega), ok_bind, if_pos hq,
      skipString_eq hs (by omega), ok_bind, dif_pos (Value.lt_skipString ..), ih]
  | case2 i hi hq hx =>
    rw [Bool.and_eq_true] at hx
    rw [findOpen, dif_pos hi, byte_eq hs (by omega), ok_bind, if_neg hq, word_eq hs hi, ok_bind,
      if_pos ((Value.readsVar_iff _).mp hx.1), beginsWord_eq hs (by omega), ok_bind]
    exact if_pos hx.2
  | case3 i hi hq hx ih =>
    rw [findOpen, dif_pos hi, byte_eq hs (by omega), ok_bind, if_neg hq, word_eq hs hi, ok_bind,
      ← ih]
    split
    · rename_i hw
      have hword : ¬Value.beginsWord b i (by omega) = true := by
        simpa [(Value.readsVar_iff _).mpr hw] using hx
      rw [beginsWord_eq hs (by omega), ok_bind]
      exact if_neg hword
    · rfl
  | case4 i hi => rw [findOpen, dif_neg hi]

theorem findClose_eq (depth i : Nat) :
    findClose b stop (depth + 1) i = .ok (Value.findClose? b hs depth i) := by
  fun_induction Value.findClose? b hs depth i with
  | case1 depth i hi hq ih =>
    rw [findClose, dif_pos hi, byte_eq hs hi, ok_bind, if_pos hq, skipString_eq hs hi, ok_bind,
      dif_pos (Value.lt_skipString ..), ih]
  | case2 depth i hi hq ho ih =>
    rw [findClose, dif_pos hi, byte_eq hs hi, ok_bind, if_neg hq, if_pos ho, ih]
  | case3 i hi hq ho hc =>
    rw [findClose, dif_pos hi, byte_eq hs hi, ok_bind, if_neg hq, if_neg ho, if_pos hc,
      if_neg (Nat.succ_ne_zero _), if_pos rfl]
  | case4 i hi hq ho hc depth ih =>
    rw [findClose, dif_pos hi, byte_eq hs hi, ok_bind, if_neg hq, if_neg ho, if_pos hc,
      if_neg (Nat.succ_ne_zero _), if_neg (by omega), Nat.add_sub_cancel, ih]
  | case5 depth i hi hq ho hc ih =>
    rw [findClose, dif_pos hi, byte_eq hs hi, ok_bind, if_neg hq, if_neg ho, if_neg hc, ih]
  | case6 depth i hi => rw [findClose, dif_neg hi]

theorem findComma_eq (depth i : Nat) :
    findComma b stop depth i = .ok (Value.findComma? b hs depth i) := by
  fun_induction Value.findComma? b hs depth i with
  | case1 depth i hi hq ih =>
    rw [findComma, dif_pos hi, byte_eq hs hi, ok_bind, if_pos hq, skipString_eq hs hi, ok_bind,
      dif_pos (Value.lt_skipString ..), ih]
  | case2 depth i hi hq ho ih =>
    rw [findComma, dif_pos hi, byte_eq hs hi, ok_bind, if_neg hq, if_pos ho, ih]
  | case3 depth i hi hq ho hc ih =>
    rw [findComma, dif_pos hi, byte_eq hs hi, ok_bind, if_neg hq, if_neg ho, if_pos hc, ih]
  | case4 depth i hi hq ho hc hm =>
    rw [findComma, dif_pos hi, byte_eq hs hi, ok_bind, if_neg hq, if_neg ho, if_neg hc, if_pos hm]
  | case5 depth i hi hq ho hc hm ih =>
    rw [findComma, dif_pos hi, byte_eq hs hi, ok_bind, if_neg hq, if_neg ho, if_neg hc, if_neg hm,
      ih]
  | case6 depth i hi => rw [findComma, dif_neg hi]

end Search

/-! ### Names -/

/-- The name in a piece of the value. Its text is cut out as well, for the log. -/
def nameSpan (value : String) (low high : Nat) : Except Fault (Option Span) := do
  let part ← piece value ⟨low, high⟩
  match Value.nameSpan? part.toByteArray 0 part.utf8ByteSize (Nat.le_refl _) with
  | none => .ok none
  | some r =>
    let _text ← piece value (r.shift low)
    .ok (some (r.shift low))

theorem nameSpan_eq {value : String} {low high : Nat} (hle : low ≤ high)
    (hlow : String.Pos.Raw.IsValid value ⟨low⟩) (hhigh : high < value.toByteArray.size)
    (hx : value.toByteArray[high] < 0x80) :
    nameSpan value low high =
      .ok (Value.nameSpan? value.toByteArray low high (Nat.le_of_lt hhigh)) := by
  obtain ⟨part, hpart⟩ := Span.exists_slice? hle hlow (isValid_of_lt hhigh hx).1
  obtain ⟨p, hp, hbytes⟩ := Value.NamePart.exists_split
    (Value.between value.toByteArray low high)
  have hall : Value.between part.toByteArray 0 part.utf8ByteSize = p.bytes := by
    rw [hbytes, ← Span.utf8_of_slice? hpart]
    exact Value.between_all _
  rw [nameSpan, piece_eq hpart, ok_bind, Value.nameSpan?_eq hle hbytes.symm hp,
    Value.nameSpan?_eq (Nat.zero_le _) hall hp]
  cases p with
  | nameless text => rfl
  | named lead name trail =>
    obtain ⟨-, -, -, hwithin⟩ := Value.NamePart.within_of_name? hp hle hhigh hbytes.symm hx rfl
    obtain ⟨text, htext⟩ := hwithin.exists_slice?
    have hshift : Span.shift low ⟨0 + lead.length + 2, 0 + lead.length + 2 + name.length⟩ =
        ⟨low + lead.length + 2, low + lead.length + 2 + name.length⟩ := by
      simp only [Span.shift, Nat.zero_add, Nat.add_assoc]
    dsimp only [Value.NamePart.span?]
    rw [hshift, piece_eq htext, ok_bind]

/-- A text may be cut behind `var(`. -/
theorem isValid_of_isOpening {value : String} {i : Nat} (hi : i + 4 ≤ value.toByteArray.size)
    (h : Value.IsOpening (Value.between value.toByteArray i (i + 4))) :
    String.Pos.Raw.IsValid value ⟨i + 4⟩ := by
  obtain ⟨x, y, z, hword, -⟩ := Value.isOpening_iff.mp h
  obtain ⟨h₁, -, hword⟩ := Value.between_eq_cons hi (Nat.le_add_right i 4) hword
  obtain ⟨h₂, -, hword⟩ := Value.between_eq_cons hi h₁ hword
  obtain ⟨h₃, -, hword⟩ := Value.between_eq_cons hi h₂ hword
  obtain ⟨h₄, hparen, -⟩ := Value.between_eq_cons hi h₃ hword
  exact (isValid_of_lt (Nat.lt_of_lt_of_le h₄ hi) (by rw [hparen]; decide)).2

/-! ### The scan -/

/-- A stretch of text that is still to be searched. -/
structure Frame where
  cursor : Nat
  stop : Nat

structure Search where
  frames : List Frame
  calls : Array Value.Call

namespace Search

def start (value : String) : Search := ⟨[⟨0, value.utf8ByteSize⟩], #[]⟩

def room (s : Search) : Nat := s.frames.foldr (fun f n => f.stop - f.cursor + 1 + n) 0

def step (value : String) (s : Search) : Except Fault (Search ⊕ Value.Scan) :=
  match s.frames with
  | [] => .ok (.inr ⟨s.calls.toList, none⟩)
  | frame :: below => do
    match ← findOpen value.toByteArray frame.stop frame.cursor with
    | none => .ok (.inl ⟨below, s.calls⟩)
    | some first =>
      match ← findClose value.toByteArray frame.stop 1 (first + 4) with
      | none => .ok (.inr ⟨s.calls.toList, some first⟩)
      | some close =>
        let rest : Frame := ⟨close + 1, frame.stop⟩
        match ← findComma value.toByteArray close 0 (first + 4) with
        | none =>
          let name ← nameSpan value (first + 4) close
          .ok (.inl ⟨rest :: below, s.calls.push ⟨⟨first, close + 1⟩, name, none⟩⟩)
        | some comma =>
          let name ← nameSpan value (first + 4) comma
          .ok (.inl ⟨⟨comma + 1, close⟩ :: rest :: below,
            s.calls.push ⟨⟨first, close + 1⟩, name, some ⟨comma + 1, close⟩⟩⟩)

/-- Steps until the scan is over; each has to leave less text to search. -/
def run (value : String) (s : Search) : Except Fault Value.Scan :=
  match step value s with
  | .error fault => .error fault
  | .ok (.inr found) => .ok found
  | .ok (.inl t) => if _h : t.room < s.room then run value t else .error .stuck
termination_by s.room

end Search

def scan (value : String) : Except Fault Value.Scan := (Search.start value).run value

end CustomProps.Guarded

namespace CustomProps.Value.Search

open Guarded (ok_bind)

/-- The search by bare offsets. -/
def bare {b : ByteArray} (s : Search b) : Guarded.Search :=
  ⟨s.frames.map fun f => ⟨f.cursor, f.stop⟩, s.calls⟩

variable {value : String}

theorem room_bare {b : ByteArray} (s : Search b) : s.bare.room = s.room := by
  rw [Guarded.Search.room, bare, List.foldr_map, room]

/-- A guarded step does what a step does. -/
theorem step_bare (s : Search value.toByteArray) :
    s.bare.step value = .ok (s.step.map bare id) := by
  obtain ⟨frames, calls⟩ := s
  cases frames with
  | nil => rfl
  | cons frame below =>
    obtain ⟨cursor, stop, hs⟩ := frame
    rw [bare, Guarded.Search.step, List.map_cons]
    dsimp only
    rw [Guarded.findOpen_eq hs, ok_bind]
    cases ho : findOpen? value.toByteArray hs cursor with
    | none =>
      unfold step
      simp only [ho]
      rfl
    | some first =>
      have hfirst := (findOpen?_bounds ho).2
      have hbehind := Guarded.isValid_of_isOpening (Nat.le_trans hfirst hs)
        (isOpening_of_findOpen? ho)
      dsimp only
      rw [Guarded.findClose_eq hs, ok_bind]
      cases hc : findClose? value.toByteArray hs 0 (first + 4) with
      | none =>
        rw [step_of_cut ho hc]
        rfl
      | some close =>
        have hbody := (findClose?_bounds hc).1
        obtain ⟨hk, hclose⟩ := getElem_of_findClose? hc
        dsimp only
        rw [Guarded.findComma_eq (Nat.le_of_lt hk), ok_bind]
        cases hm : findComma? value.toByteArray (Nat.le_of_lt hk) 0 (first + 4) with
        | none =>
          rw [step_of_call (Nat.le_of_lt hk) ho hc hm]
          dsimp only
          rw [Guarded.nameSpan_eq hbody hbehind hk (by rw [hclose]; decide), ok_bind]
          rfl
        | some comma =>
          have hpart := (findComma?_bounds hm).1
          obtain ⟨hn, hcomma⟩ := getElem_of_findComma? hm
          rw [step_of_callWith (Nat.le_of_lt hk) (Nat.le_of_lt hn) ho hc hm]
          dsimp only
          rw [Guarded.nameSpan_eq hpart hbehind hn (by rw [hcomma]; decide), ok_bind]
          rfl

theorem run_bare (s : Search value.toByteArray) : s.bare.run value = .ok s.run := by
  fun_induction run s with
  | case1 s t hstep ih =>
    have hroom : t.bare.room < s.bare.room := by
      rw [room_bare, room_bare]
      exact room_step_lt hstep
    rw [Guarded.Search.run, step_bare, hstep]
    dsimp only [Sum.map_inl]
    rw [dif_pos hroom, ih]
  | case2 s found hstep =>
    rw [Guarded.Search.run, step_bare, hstep]
    rfl

end CustomProps.Value.Search

namespace CustomProps.Guarded

/-- The guarded scan never comes to a fault. -/
theorem scan_eq (value : String) : scan value = .ok (Value.scan value) :=
  Value.Search.run_bare (Value.Search.start value.toByteArray)

end CustomProps.Guarded
