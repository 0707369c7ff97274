import CustomProps.Proofs.Text.Slices
import CustomProps.Text.Edit
import Mathlib.Algebra.Ring.Int.Defs
/-!
# Edits in one pass

Edits are carried out from the right to the left on a text that they change. Where their ranges lie
one behind the other, the result is what a single pass from left to right makes of the text as it
was: what stands between the ranges, byte for byte, and the new texts in their places.
-/
namespace CustomProps.Edit

/-- The text of `s` from `pos` on with every edit made, from left to right. -/
def weave? (s : String) (pos : Nat) : List Edit → Option String
  | [] => Span.slice? ⟨pos, s.utf8ByteSize⟩ s
  | e :: rest =>
    if e.span.Within s then
      (Span.slice? ⟨pos, e.span.start⟩ s).bind fun before =>
        (weave? s e.span.stop rest).map fun after => before ++ (e.text ++ after)
    else none

/-- The edit lies in front of the other one. -/
@[mk_iff]
structure Precedes (e f : Edit) : Prop where
  start : e.span.start < f.span.start
  stop : e.span.stop ≤ f.span.start

variable {s x w : String} {p q : Nat} {e : Edit} {es sorted : List Edit}

theorem weave?_cons_eq_some_iff :
    weave? s p (e :: es) = some w ↔ ∃ before old after, Span.slice? ⟨p, e.span.start⟩ s = some before ∧
      e.span.slice? s = some old ∧ weave? s e.span.stop es = some after ∧
      w = before ++ (e.text ++ after) := by
  constructor
  · intro h
    unfold weave? at h
    split at h
    · rename_i hw
      obtain ⟨old, hold⟩ := hw.exists_slice?
      obtain ⟨before, hbefore, hrest⟩ := Option.bind_eq_some_iff.mp h
      obtain ⟨after, hafter, rfl⟩ := Option.map_eq_some_iff.mp hrest
      exact ⟨before, old, after, hbefore, hold, hafter, rfl⟩
    · cases h
  · rintro ⟨before, old, after, hbefore, hold, hafter, rfl⟩
    have hw : e.span.Within s := Span.slice?_isSome_iff.mp (Option.isSome_of_eq_some hold)
    rw [weave?, if_pos hw, hbefore, Option.bind_some, hafter, Option.map_some]

theorem weave?_of_slice? (hx : Span.slice? ⟨p, q⟩ s = some x) (hw : weave? s q es = some w) :
    weave? s p es = some (x ++ w) := by
  cases es with
  | nil => exact Span.slice?_append hx hw
  | cons e es =>
    obtain ⟨before, old, after, hbefore, hold, hafter, rfl⟩ := weave?_cons_eq_some_iff.mp hw
    refine weave?_cons_eq_some_iff.mpr ⟨x ++ before, old, after, Span.slice?_append hx hbefore,
      hold, hafter, ?_⟩
    rw [String.append_assoc]

theorem weave?_filter (keep : Edit → Bool) (h : ∀ e ∈ es, keep e = false → e.span.slice s = e.text)
    (hw : weave? s p es = some w) : weave? s p (es.filter keep) = some w := by
  induction es generalizing p w with
  | nil => exact hw
  | cons e es ih =>
    obtain ⟨before, old, after, hbefore, hold, hafter, rfl⟩ := weave?_cons_eq_some_iff.mp hw
    have hrest := ih (fun f hf => h f (List.mem_cons_of_mem _ hf)) hafter
    cases hk : keep e with
    | true =>
      rw [List.filter_cons_of_pos hk]
      exact weave?_cons_eq_some_iff.mpr ⟨before, old, after, hbefore, hold, hrest, rfl⟩
    | false =>
      have hsame : old = e.text := by
        rw [← Span.slice_of_slice? hold]
        exact h e (List.mem_cons_self ..) hk
      rw [List.filter_cons_of_neg (by simp [hk]), ← hsame]
      exact weave?_of_slice? hbefore (weave?_of_slice? hold hrest)

theorem exists_weave? (hp : String.Pos.Raw.IsValid s ⟨p⟩) (hlow : ∀ e ∈ es, p ≤ e.span.start)
    (hchain : es.Pairwise Precedes) (hfit : ∀ e ∈ es, e.span.Within s) :
    ∃ w, weave? s p es = some w := by
  induction es generalizing p with
  | nil =>
    obtain ⟨a, z, rfl, rfl⟩ := isValid_iff.mp hp
    refine Span.exists_slice? ?_ hp String.Pos.Raw.isValid_rawEndPos
    rw [String.utf8ByteSize_append]
    exact Nat.le_add_right _ _
  | cons e es ih =>
    obtain ⟨hfirst, hrest⟩ := List.pairwise_cons.mp hchain
    have hw := hfit e (List.mem_cons_self ..)
    obtain ⟨old, hold⟩ := hw.exists_slice?
    obtain ⟨before, hbefore⟩ := Span.exists_slice? (hlow e (List.mem_cons_self ..)) hp hw.2.1
    obtain ⟨after, hafter⟩ := ih hw.2.2 (fun f hf => (hfirst f hf).stop) hrest
      fun f hf => hfit f (List.mem_cons_of_mem _ hf)
    exact ⟨_, weave?_cons_eq_some_iff.mpr ⟨before, old, after, hbefore, hold, hafter, rfl⟩⟩

/-! ### From right to left -/

theorem splice?_append {a old z : String} (hstart : e.span.start = a.utf8ByteSize)
    (hstop : e.span.stop = a.utf8ByteSize + old.utf8ByteSize) :
    e.splice? (a ++ (old ++ z)) = some (a ++ (e.text ++ z)) := by
  have hold : e.span.slice? (a ++ (old ++ z)) = some old :=
    Span.slice?_eq_some_iff.mpr ⟨a, z, rfl, hstart, hstop⟩
  have hw : e.span.Within (a ++ (old ++ z)) :=
    Span.slice?_isSome_iff.mp (Option.isSome_of_eq_some hold)
  have hbefore : Span.slice ⟨0, e.span.start⟩ (a ++ (old ++ z)) = a := by
    refine Span.slice_of_slice? (Span.slice?_eq_some_iff.mpr ⟨"", old ++ z, ?_, rfl, ?_⟩)
    · rw [String.empty_append]
    · rw [hstart, String.utf8ByteSize_empty, Nat.zero_add]
  have hafter : Span.slice ⟨e.span.stop, (a ++ (old ++ z)).utf8ByteSize⟩ (a ++ (old ++ z)) = z := by
    refine Span.slice_of_slice? (Span.slice?_eq_some_iff.mpr ⟨a ++ old, "", ?_, ?_, ?_⟩)
    · rw [String.append_empty, String.append_assoc]
    · exact hstop.trans (String.utf8ByteSize_append).symm
    · simp only [String.utf8ByteSize_append, Nat.add_assoc]
  rw [splice?, if_pos hw, hbefore, hafter, String.append_assoc]

/-- The edits of a pass from `p` on, made from right to left: what stands in front of `p` is still
there, and what comes after it is what the pass makes of it. -/
theorem foldlM_splice?_reverse (hx : Span.slice? ⟨0, p⟩ s = some x) (hw : weave? s p es = some w) :
    es.reverse.foldlM (fun t e => e.splice? t) s = some (x ++ w) := by
  induction es generalizing p x w with
  | nil =>
    rw [Span.eq_of_slice?_all (Span.slice?_append hx hw)]
    rfl
  | cons e es ih =>
    obtain ⟨before, old, after, hbefore, hold, hafter, rfl⟩ := weave?_cons_eq_some_iff.mp hw
    have hfront := Span.slice?_append hx hbefore
    have hrest := ih (Span.slice?_append hfront hold) hafter
    have hstart : e.span.start = (x ++ before).utf8ByteSize := by
      have hstop := Span.stop_of_slice? hfront
      rwa [Nat.zero_add] at hstop
    have hstop : e.span.stop = (x ++ before).utf8ByteSize + old.utf8ByteSize := by
      rw [Span.stop_of_slice? hold, hstart]
    rw [List.reverse_cons, List.foldlM_append, hrest, String.append_assoc]
    show [e].foldlM (fun t e => e.splice? t) ((x ++ before) ++ (old ++ after)) = _
    rw [List.foldlM_cons, splice?_append hstart hstop, String.append_assoc]
    rfl

theorem pairwise_schedule (es : List Edit) :
    (schedule es).Pairwise fun a b => b.span.start ≤ a.span.start := by
  let le : Edit → Edit → Bool := fun a b => decide (b.span.start ≤ a.span.start)
  have htrans : ∀ a b c, le a b = true → le b c = true → le a c = true := by
    intro a b c hab hbc
    simp only [le, decide_eq_true_eq] at hab hbc ⊢
    omega
  have htotal : ∀ a b, (le a b || le b a) = true := by
    intro a b
    simp only [le, Bool.or_eq_true, decide_eq_true_eq]
    omega
  exact (List.pairwise_mergeSort htrans htotal es).imp fun hab => of_decide_eq_true hab

/-- Edits that lie one in front of the other are carried out from the last to the first, in
whatever order they are given. -/
theorem schedule_eq_reverse (h : sorted.Pairwise Precedes) (hperm : es.Perm sorted) :
    schedule es = sorted.reverse := by
  have hreverse : sorted.reverse.Pairwise fun a b => b.span.start ≤ a.span.start :=
    List.pairwise_reverse.mpr (h.imp fun hab => Nat.le_of_lt hab.start)
  have hsame : (schedule es).Perm sorted.reverse :=
    (schedule_perm es).trans (hperm.trans (List.reverse_perm sorted).symm)
  refine List.Perm.eq_of_pairwise ?_ (pairwise_schedule es) hreverse hsame
  intro a b ha hb hab hba
  obtain ⟨i, hi, rfl⟩ := List.mem_iff_getElem.mp (((schedule_perm es).trans hperm).subset ha)
  obtain ⟨j, hj, rfl⟩ := List.mem_iff_getElem.mp (List.mem_reverse.mp hb)
  have hlt := List.pairwise_iff_getElem.mp h
  rcases Nat.lt_trichotomy i j with hij | rfl | hji
  · have hstart := (hlt i j hi hj hij).start
    omega
  · rfl
  · have hstart := (hlt j i hj hi hji).start
    omega

/-- All edits together make what one pass makes. -/
theorem applyAll?_eq_weave? (h : sorted.Pairwise Precedes) (hperm : es.Perm sorted)
    (hw : weave? s 0 sorted = some w) : applyAll? es s = some w := by
  have hempty : Span.slice? ⟨0, 0⟩ s = some "" :=
    Span.slice?_eq_some_iff.mpr ⟨"", s, by simp, rfl, rfl⟩
  rw [applyAll?, schedule_eq_reverse h hperm, foldlM_splice?_reverse hempty hw,
    String.empty_append]

/-! ### Where the new texts stand -/

/-- By how much an edit makes a text longer. -/
def growth (e : Edit) : Int := e.text.utf8ByteSize - ((e.span.stop : Int) - e.span.start)

theorem utf8ByteSize_weave? (hw : weave? s p es = some w) :
    (w.utf8ByteSize : Int) = s.utf8ByteSize - p + (es.map growth).sum := by
  induction es generalizing p w with
  | nil =>
    have hstop := Span.stop_of_slice? hw
    rw [List.map_nil, List.sum_nil]
    dsimp only at hstop
    omega
  | cons e es ih =>
    obtain ⟨before, old, after, hbefore, hold, hafter, rfl⟩ := weave?_cons_eq_some_iff.mp hw
    have hfront := Span.stop_of_slice? hbefore
    have hback := Span.stop_of_slice? hold
    have hrest := ih hafter
    rw [List.map_cons, List.sum_cons, growth, String.utf8ByteSize_append,
      String.utf8ByteSize_append]
    dsimp only at hfront
    omega

/-- By how much the edits that end at or before `x` make a text longer. -/
def shift (es : List Edit) (x : Nat) : Int :=
  ((es.filter fun e => e.span.stop ≤ x).map growth).sum

theorem shift_cons_of_le {x : Nat} (h : e.span.stop ≤ x) (es : List Edit) :
    shift (e :: es) x = growth e + shift es x := by
  rw [shift, List.filter_cons_of_pos (by simpa using h), List.map_cons, List.sum_cons, shift]

theorem shift_of_forall_lt {x : Nat} (h : ∀ e ∈ es, x < e.span.stop) : shift es x = 0 := by
  have hnil : es.filter (fun e => e.span.stop ≤ x) = [] := by
    refine List.filter_eq_nil_iff.mpr fun e he => ?_
    have hlt := h e he
    simp only [decide_eq_true_eq]
    omega
  rw [shift, hnil]
  rfl

/-- The text of an edit stands where the edits in front of it have moved its range. -/
theorem slice?_of_weave? {high : Nat} (hw : weave? s p es = some w)
    (hasc : Span.Ascending p high (es.map Edit.span)) (he : e ∈ es) :
    ∃ i j : Nat, (i : Int) = e.span.start - p + shift es e.span.start ∧
      (j : Int) = e.span.stop - p + shift es e.span.stop ∧
      Span.slice? ⟨i, j⟩ w = some e.text := by
  induction es generalizing p w with
  | nil => cases he
  | cons f es ih =>
    obtain ⟨before, old, after, hbefore, hold, hafter, rfl⟩ := weave?_cons_eq_some_iff.mp hw
    obtain ⟨-, hlt, hrest⟩ := hasc
    have hfront := Span.stop_of_slice? hbefore
    have hlater : ∀ g ∈ es, f.span.stop < g.span.stop := by
      intro g hg
      have hmem := hrest.mem (List.mem_map_of_mem hg)
      omega
    rcases List.mem_cons.mp he with rfl | he
    · have hstart : shift (e :: es) e.span.start = 0 := by
        refine shift_of_forall_lt fun g hg => ?_
        rcases List.mem_cons.mp hg with rfl | hg
        · exact hlt
        · have hstop := hlater g hg
          omega
      have hstop : shift (e :: es) e.span.stop = growth e := by
        rw [shift_cons_of_le (Nat.le_refl _), shift_of_forall_lt hlater, Int.add_zero]
      refine ⟨before.utf8ByteSize, before.utf8ByteSize + e.text.utf8ByteSize, ?_, ?_, ?_⟩
      · dsimp only at hfront
        omega
      · dsimp only at hfront
        rw [hstop, growth]
        omega
      · exact Span.slice?_eq_some_iff.mpr ⟨before, after, rfl, rfl, rfl⟩
    · obtain ⟨i, j, hi, hj, hslice⟩ := ih hafter hrest he
      have hmem := hrest.mem (List.mem_map_of_mem he)
      have hstart := shift_cons_of_le hmem.1 es
      have hstop := shift_cons_of_le (e := f) (x := e.span.stop) (by omega) es
      refine ⟨before.utf8ByteSize + (f.text.utf8ByteSize + i),
        before.utf8ByteSize + (f.text.utf8ByteSize + j), ?_, ?_, ?_⟩
      · dsimp only at hfront
        rw [hstart, growth]
        omega
      · dsimp only at hfront
        rw [hstop, growth]
        omega
      · exact Span.slice?_append_left before (Span.slice?_append_left f.text hslice)

end CustomProps.Edit

namespace CustomProps

/-! ### The bytes of a pass -/

/-- The bytes of `b` from `p` on, with new bytes in the place of some ranges. -/
def weaveBytes (b : ByteArray) (p : Nat) : List (Span × List UInt8) → List UInt8
  | [] => Value.between b p b.size
  | (r, text) :: rest => Value.between b p r.start ++ (text ++ weaveBytes b r.stop rest)

theorem utf8_of_weave? {s w : String} {p : Nat} {es : List Edit}
    (h : Edit.weave? s p es = some w) :
    utf8 w = weaveBytes s.toByteArray p (es.map fun e => (e.span, utf8 e.text)) := by
  induction es generalizing p w with
  | nil =>
    rw [Edit.weave?] at h
    rw [Span.utf8_of_slice? h, List.map_nil, weaveBytes, String.size_toByteArray]
  | cons e es ih =>
    obtain ⟨before, old, after, hbefore, -, hafter, rfl⟩ := Edit.weave?_cons_eq_some_iff.mp h
    rw [utf8_append, utf8_append, Span.utf8_of_slice? hbefore, ih hafter, List.map_cons, weaveBytes]

theorem weaveBytes_of_le {b : ByteArray} {p q : Nat} {cs : List (Span × List UInt8)} (hpq : p ≤ q)
    (hq : q ≤ b.size) (h : ∀ c ∈ cs, q ≤ c.1.start) :
    weaveBytes b p cs = Value.between b p q ++ weaveBytes b q cs := by
  cases cs with
  | nil => rw [weaveBytes, weaveBytes, Value.between_append hpq hq]
  | cons c cs =>
    obtain ⟨r, text⟩ := c
    have hr : q ≤ r.start := h _ (List.mem_cons_self ..)
    rw [weaveBytes, weaveBytes, ← Value.between_append hpq hr, List.append_assoc]

end CustomProps
