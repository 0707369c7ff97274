import CustomProps.Text.Span
import CustomProps.Value.Lexical
/-!
The `var()` calls of a value. A call runs from its `var(` to the parenthesis that closes it; its
first top-level comma parts the name from the fallback, and the fallback is searched for calls
before the text that follows the call. Calls are listed in that order: a call, those of its
fallback, then its later siblings. A `var(` that never closes ends the search.

The search keeps a stack of frames, stretches of text that are still to be read, so deep fallbacks
cost no recursion. Every step shortens the text that is left in the frames: that is why it ends.
-/
namespace CustomProps.Value

/-- One `var()` call: all of it, the name after `--`, and what follows its first top-level comma. -/
structure Call where
  span : Span
  name : Option Span
  fallback : Option Span
deriving DecidableEq, Repr, Inhabited

/-- A call that names a custom property. -/
structure Reference where
  span : Span
  name : Span
  fallback : Option Span
deriving DecidableEq, Repr, Inhabited

def Call.reference? (c : Call) : Option Reference :=
  c.name.map fun name => ⟨c.span, name, c.fallback⟩

/-- The name a reference has in the value it was found in. -/
def Reference.nameIn (r : Reference) (value : String) : String := r.name.slice value

/-- The fallback text of a reference in the value it was found in. -/
def Reference.fallbackIn (r : Reference) (value : String) : Option String :=
  r.fallback.map (·.slice value)

/-- What a value was found to hold; nothing after an unterminated `var(` has been read. -/
structure Scan where
  calls : List Call
  unterminatedAt : Option Nat
deriving DecidableEq, Repr, Inhabited

namespace Scan

/-- The calls that name a custom property, in the order of discovery. -/
def references (s : Scan) : List Reference := s.calls.filterMap Call.reference?

def isEmpty (s : Scan) : Bool := s.references.isEmpty

def names (s : Scan) (value : String) : List String :=
  s.references.map (·.nameIn value)

end Scan

/-- The name in the bytes from `low` to `high`: less the blanks around it, two dashes and then at
least one more byte. -/
def nameSpan? (b : ByteArray) (low high : Nat) (h : high ≤ b.size) : Option Span :=
  let first := trimStart b h low
  let last := trimEnd b first high h
  have : last ≤ high := trimEnd_le h
  if hf : first + 2 < last then
    if b[first] = Ascii.dash ∧ b[first + 1] = Ascii.dash then some ⟨first + 2, last⟩ else none
  else none

/-! ### The search -/

/-- A stretch of text of which the bytes from `cursor` to `stop` are still to be searched. -/
structure Frame (b : ByteArray) where
  cursor : Nat
  stop : Nat
  stop_le : stop ≤ b.size

/-- The state of a search: the frames that are open, innermost first, and the calls found. -/
structure Search (b : ByteArray) where
  frames : List (Frame b)
  calls : Array Call

namespace Search

variable {b : ByteArray}

/-- All of the value is to be searched and nothing has been found. -/
def start (b : ByteArray) : Search b := ⟨[⟨0, b.size, Nat.le_refl _⟩], #[]⟩

/-- The text that is left to search, every open frame counting for one byte more. -/
def room (s : Search b) : Nat := s.frames.foldr (fun f n => f.stop - f.cursor + 1 + n) 0

/-- One step: close a frame in which no call is left, or take up the next call of the innermost
frame and open a frame for its fallback. The search is over when no frame is open or when a call
does not close. -/
def step (s : Search b) : Search b ⊕ Scan :=
  match s.frames with
  | [] => .inr ⟨s.calls.toList, none⟩
  | frame :: below =>
    match findOpen? b frame.stop_le frame.cursor with
    | none => .inl ⟨below, s.calls⟩
    | some first =>
      match hc : findClose? b frame.stop_le 0 (first + 4) with
      | none => .inr ⟨s.calls.toList, some first⟩
      | some close =>
        have hk : close ≤ b.size := by
          have := (findClose?_bounds hc).2
          have := frame.stop_le
          omega
        let rest : Frame b := { frame with cursor := close + 1 }
        match hm : findComma? b hk 0 (first + 4) with
        | none =>
          .inl ⟨rest :: below,
            s.calls.push ⟨⟨first, close + 1⟩, nameSpan? b (first + 4) close hk, none⟩⟩
        | some comma =>
          have hm : comma ≤ b.size := by
            have := (findComma?_bounds hm).2
            omega
          .inl ⟨⟨comma + 1, close, hk⟩ :: rest :: below,
            s.calls.push ⟨⟨first, close + 1⟩, nameSpan? b (first + 4) comma hm,
              some ⟨comma + 1, close⟩⟩⟩

theorem room_step_lt {s t : Search b} (h : s.step = .inl t) : t.room < s.room := by
  unfold step at h
  split at h
  · cases h
  · rename_i frame below hf
    split at h
    · cases h
      simp [room, hf]
    · rename_i first ho
      have := findOpen?_bounds ho
      split at h
      · cases h
      · rename_i close hc
        have := findClose?_bounds hc
        dsimp only at h
        split at h
        · cases h
          simp only [room, hf, List.foldr_cons]
          omega
        · rename_i comma hm
          have := findComma?_bounds hm
          cases h
          simp only [room, hf, List.foldr_cons]
          omega

/-- Steps until the search is over. -/
def run (s : Search b) : Scan :=
  match _h : s.step with
  | .inl t => t.run
  | .inr scan => scan
termination_by s.room
decreasing_by exact room_step_lt _h

end Search

/-- Every `var()` call of a value. -/
def scan (value : String) : Scan := (Search.start value.toByteArray).run

end CustomProps.Value
