import CustomProps.Proofs.Value.Steps
import Mathlib.Data.Nat.Find
/-!
# The layout of a value

A value is laid out as text in front of a call, the call, and what follows the call, again and again
until text without a call is left or a call that does not close. The fallback of a call is laid out
in the same way. Every value has a layout, and scanning a value finds the calls of its layout, each
where the layout has it.
-/
namespace CustomProps.Value

inductive Layout where
  | plain (text : List UInt8)
  /-- A call that does not close, up to the end of the value. -/
  | cut (gap word rest : List UInt8)
  | call (gap word : List UInt8) (part : NamePart) (after : Layout)
  | callWith (gap word : List UInt8) (part : NamePart) (fallback after : Layout)
deriving Repr

namespace Layout

def bytes : Layout → List UInt8
  | plain text => text
  | cut gap word rest => gap ++ (word ++ rest)
  | call gap word part after => gap ++ (word ++ (part.bytes ++ Ascii.closeParen :: after.bytes))
  | callWith gap word part fallback after =>
    gap ++ (word ++ (part.bytes ++ Ascii.comma :: (fallback.bytes ++
      Ascii.closeParen :: after.bytes)))

/-- The calls of a layout that begins at `o`, each before those of its fallback. -/
def calls (o : Nat) : Layout → List Call
  | plain _ => []
  | cut .. => []
  | call gap _ part after =>
    let body := o + gap.length + 4
    let stop := body + part.bytes.length + 1
    ⟨⟨o + gap.length, stop⟩, part.span? body, none⟩ :: after.calls stop
  | callWith gap _ part fallback after =>
    let body := o + gap.length + 4
    let inner := body + part.bytes.length + 1
    let close := inner + fallback.bytes.length
    ⟨⟨o + gap.length, close + 1⟩, part.span? body, some ⟨inner, close⟩⟩ ::
      (fallback.calls inner ++ after.calls (close + 1))

/-- Where the call that does not close begins if the layout begins at `o`. -/
def cutAt? (o : Nat) : Layout → Option Nat
  | plain _ => none
  | cut gap _ _ => some (o + gap.length)
  | call gap _ part after => after.cutAt? (o + gap.length + 4 + part.bytes.length + 1)
  | callWith gap _ part fallback after =>
    after.cutAt? (o + gap.length + 4 + part.bytes.length + 1 + fallback.bytes.length + 1)

/-- The layout is the one that a scan follows. -/
def Sound : Layout → Prop
  | plain text => ∀ n, ¬Site text n
  | cut gap word rest => Gap gap ∧ IsOpening word ∧ Nesting.top.read? rest ≠ none
  | call gap word part after => Gap gap ∧ IsOpening word ∧ part.Sound ∧ after.Sound
  | callWith gap word part fallback after =>
    Gap gap ∧ IsOpening word ∧ part.Sound ∧
      (fallback.Sound ∧ Nesting.top.read? fallback.bytes = some .top) ∧ after.Sound

/-! ### Every value has a layout -/

theorem exists_gap {l : List UInt8} {n : Nat} (hn : Site l n) (hfirst : ∀ m < n, ¬Site l m) :
    ∃ gap word rest, l = gap ++ (word ++ rest) ∧ Gap gap ∧ IsOpening word := by
  have hlen := hn.add_four_le
  refine ⟨l.take n, (l.drop n).take 4, (l.drop n).drop 4, ?_, ⟨?_, hn.outside, hn.begins⟩,
    hn.opening⟩
  · rw [List.take_append_drop, List.take_append_drop]
  · intro m hm
    have hle := hm.add_four_le
    rw [List.length_take] at hle
    refine hfirst m (by omega) ?_
    rw [← List.take_append_drop n l]
    exact (Site.append_iff hm.add_four_le).mpr hm

theorem exists_sound (l : List UInt8) : ∃ t : Layout, t.Sound ∧ t.bytes = l := by
  -- the text behind the first call and the text of its fallback are both shorter
  induction hlen : l.length using Nat.strongRecOn generalizing l with
  | _ size ih =>
    by_cases hsite : ∃ n, Site l n
    · classical
      obtain ⟨gap, word, rest, rfl, hgap, hword⟩ :=
        exists_gap (Nat.find_spec hsite) fun m hm => Nat.find_min hsite hm
      cases hread : Nesting.top.read? rest with
      | some t =>
        refine ⟨cut gap word rest, ⟨hgap, hword, ?_⟩, rfl⟩
        rw [hread]
        exact Option.some_ne_none t
      | none =>
        obtain ⟨body, after, rfl, hbody⟩ := Nesting.exists_of_read?_eq_none hread
        simp only [List.length_append, List.length_cons] at hlen
        obtain ⟨a, ha, rfl⟩ := ih after.length (by omega) after rfl
        rcases Nesting.exists_of_read?_eq_some hbody with hpart | ⟨part, inner, rfl, hpart⟩
        · obtain ⟨p, hp, rfl⟩ := NamePart.exists_of_readPart? hpart
          exact ⟨call gap word p a, ⟨hgap, hword, hp, ha⟩, rfl⟩
        · simp only [List.length_append, List.length_cons] at hlen
          obtain ⟨f, hf, rfl⟩ := ih inner.length (by omega) inner rfl
          obtain ⟨p, hp, rfl⟩ := NamePart.exists_of_readPart? hpart
          rw [Nesting.read?_append, Nesting.read?_of_readPart? hpart] at hbody
          refine ⟨callWith gap word p f a, ⟨hgap, hword, hp, ⟨hf, hbody⟩, ha⟩, ?_⟩
          simp [bytes]
    · exact ⟨plain l, fun n hn => hsite ⟨n, hn⟩, rfl⟩

/-! ### A text without open ends -/

theorem read?_opening {word : List UInt8} (h : IsOpening word) (d : Nat) :
    Nesting.read? ⟨.outside, d⟩ word = some ⟨.outside, d + 1⟩ := by
  obtain ⟨x, y, z, rfl, hx, hy, hz⟩ := isOpening_iff.mp h
  obtain ⟨hqx, hox, hcx⟩ := Ascii.marks_of_toLower x (Or.inl hx)
  obtain ⟨hqy, hoy, hcy⟩ := Ascii.marks_of_toLower y (Or.inr (Or.inl hy))
  obtain ⟨hqz, hoz, hcz⟩ := Ascii.marks_of_toLower z (Or.inr (Or.inr hz))
  simp [Nesting.next?_outside, hox, hcx, hoy, hcy, hoz, hcz, Quoting.next, hqx, hqy, hqz]

theorem after_opening {word : List UInt8} (h : IsOpening word) :
    Quoting.outside.after word = .outside :=
  (Nesting.quoting_of_read? (read?_opening h 0)).symm

theorem exists_of_read?_gap {gap word rest : List UInt8} {d : Nat} {t : Nesting} (hgap : Gap gap)
    (hword : IsOpening word) (h : Nesting.read? ⟨.outside, d⟩ (gap ++ (word ++ rest)) = some t) :
    ∃ e, Nesting.read? ⟨.outside, e + 1⟩ rest = some t := by
  rw [Nesting.read?_append] at h
  obtain ⟨⟨q, e⟩, hg, hrest⟩ := Option.bind_eq_some_iff.mp h
  have hq : q = .outside := (Nesting.quoting_of_read? hg).trans hgap.closed
  rw [hq, Nesting.read?_append, read?_opening hword] at hrest
  exact ⟨e, hrest⟩

theorem read?_of_top {l : List UInt8} (h : Nesting.top.read? l = some .top) (d : Nat) :
    Nesting.read? ⟨.outside, d⟩ l = some ⟨.outside, d⟩ := by
  have hadd := Nesting.read?_add_depth h d
  simp only [Nesting.top, Nat.zero_add] at hadd
  exact hadd

theorem exists_of_read?_call {gap word rest : List UInt8} {part : NamePart} {d : Nat} {t : Nesting}
    (hgap : Gap gap) (hword : IsOpening word) (hpart : part.Sound)
    (h : Nesting.read? ⟨.outside, d⟩ (gap ++ (word ++ (part.bytes ++ Ascii.closeParen :: rest))) =
      some t) : ∃ e, Nesting.read? ⟨.outside, e⟩ rest = some t := by
  obtain ⟨e, he⟩ := exists_of_read?_gap hgap hword h
  rw [Nesting.read?_append, read?_of_top (Nesting.read?_of_readPart? hpart.closed)] at he
  exact ⟨e, by simpa using he⟩

theorem exists_of_read?_callWith {gap word inner rest : List UInt8} {part : NamePart} {d : Nat}
    {t : Nesting} (hgap : Gap gap) (hword : IsOpening word) (hpart : part.Sound)
    (hinner : Nesting.top.read? inner = some .top)
    (h : Nesting.read? ⟨.outside, d⟩ (gap ++ (word ++ (part.bytes ++ Ascii.comma :: (inner ++
      Ascii.closeParen :: rest)))) = some t) : ∃ e, Nesting.read? ⟨.outside, e⟩ rest = some t := by
  obtain ⟨e, he⟩ := exists_of_read?_gap hgap hword h
  rw [Nesting.read?_append, read?_of_top (Nesting.read?_of_readPart? hpart.closed)] at he
  have hcomma : Nesting.next? ⟨.outside, e + 1⟩ Ascii.comma = some ⟨.outside, e + 1⟩ :=
    Nesting.next?_outside Ascii.comma_ne_openParen Ascii.comma_ne_closeParen
  simp only [Option.bind_some, Nesting.read?_cons, hcomma, Nesting.read?_append,
    read?_of_top hinner, Nesting.next?_closeParen_succ] at he
  exact ⟨e, he⟩

/-- In a layout with an open end some parenthesis stays open. -/
theorem cutAt?_eq_none_of_read? {t : Layout} (ht : t.Sound) {d : Nat} {q : Quoting}
    (h : Nesting.read? ⟨.outside, d⟩ t.bytes = some ⟨q, 0⟩) (o : Nat) : t.cutAt? o = none := by
  induction t generalizing d o with
  | plain text => rfl
  | cut gap word rest =>
    obtain ⟨hgap, hword, hrest⟩ := ht
    obtain ⟨e, he⟩ := exists_of_read?_gap hgap hword h
    obtain ⟨t, hread⟩ := Option.ne_none_iff_exists'.mp hrest
    have hadd := Nesting.read?_add_depth hread (e + 1)
    simp only [Nesting.top, Nat.zero_add] at hadd
    rw [hadd] at he
    simp only [Option.some.injEq, Nesting.mk.injEq] at he
    omega
  | call gap word part after iha =>
    obtain ⟨hgap, hword, hpart, hafter⟩ := ht
    obtain ⟨e, he⟩ := exists_of_read?_call hgap hword hpart h
    exact iha hafter he _
  | callWith gap word part fallback after _ iha =>
    obtain ⟨hgap, hword, hpart, ⟨-, hfallback⟩, hafter⟩ := ht
    obtain ⟨e, he⟩ := exists_of_read?_callWith hgap hword hpart hfallback h
    exact iha hafter he _

/-! ### Scanning a layout -/

theorem run_frame {b : ByteArray} {stop : Nat} {hs : stop ≤ b.size} {t : Layout} (ht : t.Sound)
    {i : Nat} (hi : i ≤ stop) (hb : beginsWord b i (Nat.le_trans hi hs) = true)
    (h : between b i stop = t.bytes) (below : List (Frame b)) (calls : Array Call) :
    (⟨⟨i, stop, hs⟩ :: below, calls⟩ : Search b).run =
      match t.cutAt? i with
      | none => (⟨below, calls ++ t.calls i⟩ : Search b).run
      | some first => ⟨calls.toList ++ t.calls i, some first⟩ := by
  induction t generalizing i stop below calls with
  | plain text =>
    rw [Search.run_of_step_inl (Search.step_plain below calls hi hb (by rw [h]; exact ht))]
    simp [cutAt?, Layout.calls]
  | cut gap word rest =>
    obtain ⟨hgap, hword, hrest⟩ := ht
    rw [Search.run_of_step_inr (Search.step_cut below calls hi hb hgap hword hrest h)]
    simp [cutAt?, Layout.calls]
  | call gap word part after iha =>
    obtain ⟨hgap, hword, hpart, hafter⟩ := ht
    obtain ⟨j, hj, rfl, hbj, hrest, hstep⟩ := Search.step_call below calls hi hb hgap hword hpart h
    rw [Search.run_of_step_inl hstep, iha hafter hj hbj hrest]
    simp only [cutAt?, Layout.calls, Array.toList_push, List.append_assoc, List.singleton_append,
      Array.appendList_cons]
  | callWith gap word part fallback after ihf iha =>
    obtain ⟨hgap, hword, hpart, ⟨hfallback, hclosed⟩, hafter⟩ := ht
    obtain ⟨m, k, hmk, hk, rfl, rfl, hbm, hbk, hinner, hrest, hstep⟩ :=
      Search.step_callWith below calls hi hb hgap hword hpart hclosed h
    rw [Search.run_of_step_inl hstep, ihf hfallback hmk hbm hinner,
      cutAt?_eq_none_of_read? hfallback hclosed]
    simp only
    rw [iha hafter hk hbk hrest]
    have happend : ∀ (found : Array Call) (l m : List Call), found ++ l ++ m = found ++ (l ++ m) :=
      fun found l m => Array.ext' (by simp)
    simp only [cutAt?, Layout.calls, Nat.succ_eq_add_one, Array.toList_appendList,
      Array.toList_push, List.append_assoc, List.singleton_append, Array.appendList_cons, happend]
    rfl

end Layout

/-- A scan finds the calls of the layout that the value has. -/
theorem scan_eq_of_layout {value : String} {t : Layout} (ht : t.Sound)
    (h : value.toByteArray.data.toList = t.bytes) : scan value = ⟨t.calls 0, t.cutAt? 0⟩ := by
  have hall := (between_all value.toByteArray).trans h
  rw [scan, Search.start, Layout.run_frame ht (Nat.zero_le _) beginsWord_zero hall]
  cases t.cutAt? 0 with
  | none => simp [Search.run_nil]
  | some first => simp

end CustomProps.Value
