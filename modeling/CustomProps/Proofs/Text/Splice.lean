import CustomProps.Proofs.Text.Weave
/-!
# Edits apart from one another

Edits whose ranges do not overlap and begin at different places can be put in an order in which each
lies in front of the next. In whatever order they are given, they make what one pass in that order
makes of the text, and of the text they leave every byte that stands in none of the ranges.
-/
namespace CustomProps.Edit

/-- The ranges begin at different places and one of them ends before the other begins. -/
@[mk_iff]
structure Apart (e f : Edit) : Prop where
  start : e.span.start ≠ f.span.start
  stop : e.span.stop ≤ f.span.start ∨ f.span.stop ≤ e.span.start

instance (e f : Edit) : Decidable (e.Apart f) := decidable_of_iff _ (apart_iff e f).symm

variable {s w : String} {p : Nat} {e f : Edit} {es es' : List Edit}

/-! ### The edits in order -/

theorem Apart.symm (h : e.Apart f) : f.Apart e where
  start := h.start.symm
  stop := h.stop.symm

theorem Apart.precedes (h : e.Apart f) (hle : e.span.start ≤ f.span.start)
    (hf : f.span.start ≤ f.span.stop) : e.Precedes f := by
  have hne := h.start
  refine ⟨by omega, ?_⟩
  rcases h.stop with hstop | hstop
  · exact hstop
  · omega

/-- The edits from left to right. -/
theorem exists_sorted (hfit : ∀ e ∈ es, e.span.Within s) (hapart : es.Pairwise Apart) :
    ∃ sorted : List Edit, sorted.Perm es ∧ sorted.Pairwise Precedes := by
  have hperm : (schedule es).reverse.Perm es :=
    (List.reverse_perm _).trans (schedule_perm es)
  have hrising : (schedule es).reverse.Pairwise fun a b => a.span.start ≤ b.span.start :=
    List.pairwise_reverse.mpr (pairwise_schedule es)
  have hapart' : (schedule es).reverse.Pairwise Apart :=
    hperm.symm.pairwise hapart fun h => h.symm
  refine ⟨_, hperm, (hrising.and hapart').imp_of_mem fun {a b} _ hb ⟨hle, hab⟩ => ?_⟩
  exact hab.precedes hle (hfit b (hperm.subset hb)).1

/-! ### The bytes that stay -/

/-- The byte at `i` stands in no range. -/
def leaves (es : List Edit) (i : Nat) : Bool :=
  es.all fun e => decide (i < e.span.start ∨ e.span.stop ≤ i)

/-- The bytes from `p` on that stand in no range, in their order. -/
def keptFrom (b : ByteArray) (p : Nat) (es : List Edit) : List UInt8 :=
  (((Value.between b p b.size).zipIdx p).filter fun x => leaves es x.2).map Prod.fst

/-- The bytes of a text that stand in no range, in their order. -/
def kept (s : String) (es : List Edit) : List UInt8 := keptFrom s.toByteArray 0 es

theorem leaves_perm (h : es.Perm es') : leaves es = leaves es' :=
  funext fun _ => h.all_eq

theorem leaves_cons (i : Nat) :
    leaves (e :: es) i = true ↔ (i < e.span.start ∨ e.span.stop ≤ i) ∧ leaves es i = true := by
  rw [leaves, List.all_cons, Bool.and_eq_true, decide_eq_true_eq, leaves]

theorem leaves_of_lt {i : Nat} (h : ∀ e ∈ es, i < e.span.start) : leaves es i = true :=
  List.all_eq_true.mpr fun e he => decide_eq_true (Or.inl (h e he))

section Kept

variable {b : ByteArray}

theorem keptFrom_nil : keptFrom b p [] = Value.between b p b.size := by
  have hall : ((Value.between b p b.size).zipIdx p).filter (fun x => leaves [] x.2) =
      (Value.between b p b.size).zipIdx p := List.filter_eq_self.mpr fun _ _ => rfl
  rw [keptFrom, hall, List.zipIdx_map_fst]

/-- Up to the first range all bytes stay, and none of those in it does. -/
theorem keptFrom_cons (hp : p ≤ e.span.start) (he : e.span.start ≤ e.span.stop)
    (hb : e.span.stop ≤ b.size) (hrest : ∀ f ∈ es, e.Precedes f) :
    keptFrom b p (e :: es) =
      Value.between b p e.span.start ++ keptFrom b e.span.stop es := by
  have hfront : (((Value.between b p e.span.start).zipIdx p).filter
      fun x => leaves (e :: es) x.2) = (Value.between b p e.span.start).zipIdx p := by
    refine List.filter_eq_self.mpr fun x hx => leaves_of_lt fun f hf => ?_
    have hlt := List.snd_lt_add_of_mem_zipIdx hx
    rw [Value.length_between (by omega)] at hlt
    rcases List.mem_cons.mp hf with rfl | hf
    · omega
    · have hstart := (hrest f hf).start
      omega
  have hinside : (((Value.between b e.span.start e.span.stop).zipIdx e.span.start).filter
      fun x => leaves (e :: es) x.2) = [] := by
    refine List.filter_eq_nil_iff.mpr fun x hx hleft => ?_
    have hle := List.le_snd_of_mem_zipIdx hx
    have hlt := List.snd_lt_add_of_mem_zipIdx hx
    rw [Value.length_between hb] at hlt
    have hout := ((leaves_cons x.2).mp hleft).1
    omega
  have hbehind : (((Value.between b e.span.stop b.size).zipIdx e.span.stop).filter
      fun x => leaves (e :: es) x.2) =
        ((Value.between b e.span.stop b.size).zipIdx e.span.stop).filter
          fun x => leaves es x.2 := by
    refine List.filter_congr fun x hx => Bool.eq_iff_iff.mpr ?_
    rw [leaves_cons]
    exact and_iff_right (Or.inr (List.le_snd_of_mem_zipIdx hx))
  have hstart : p + (Value.between b p e.span.start).length = e.span.start := by
    rw [Value.length_between (by omega)]
    omega
  have hstop : e.span.start + (Value.between b e.span.start e.span.stop).length =
      e.span.stop := by
    rw [Value.length_between hb]
    omega
  rw [keptFrom, ← Value.between_append hp (Nat.le_trans he hb), ← Value.between_append he hb,
    List.zipIdx_append, hstart, List.zipIdx_append, hstop, List.filter_append, List.filter_append,
    hfront, hinside, hbehind, List.nil_append, List.map_append, List.zipIdx_map_fst, keptFrom]

/-- What stays is found in what a pass makes of the text. -/
theorem keptFrom_sublist (hlow : ∀ e ∈ es, p ≤ e.span.start)
    (hfit : ∀ e ∈ es, e.span.start ≤ e.span.stop ∧ e.span.stop ≤ b.size)
    (hchain : es.Pairwise Precedes) :
    (keptFrom b p es).Sublist (weaveBytes b p (es.map fun e => (e.span, utf8 e.text))) := by
  induction es generalizing p with
  | nil =>
    rw [keptFrom_nil]
    exact List.Sublist.refl _
  | cons e es ih =>
    obtain ⟨hfirst, hchain⟩ := List.pairwise_cons.mp hchain
    obtain ⟨he, hb⟩ := hfit e (List.mem_cons_self ..)
    have hrest := ih (fun f hf => (hfirst f hf).stop)
      (fun f hf => hfit f (List.mem_cons_of_mem _ hf)) hchain
    rw [keptFrom_cons (hlow e (List.mem_cons_self ..)) he hb hfirst, List.map_cons, weaveBytes]
    exact (List.Sublist.refl _).append (hrest.trans (List.sublist_append_right _ _))

end Kept

/-- Edits that are apart from one another can be made in any order: each time they all fit, and the
result is what one pass from left to right makes, in which the bytes outside the ranges are found as
they were. -/
theorem spliced_of_apart (hfit : ∀ e ∈ es, e.span.Within s) (hapart : es.Pairwise Apart) :
    ∃ sorted w, sorted.Perm es ∧ sorted.Pairwise Precedes ∧ weave? s 0 sorted = some w ∧
      (∀ es', es'.Perm es → applyAll? es' s = some w) ∧ (kept s es).Sublist (utf8 w) := by
  obtain ⟨sorted, hperm, hchain⟩ := exists_sorted hfit hapart
  have hfit' : ∀ e ∈ sorted, e.span.Within s := fun e he => hfit e (hperm.subset he)
  obtain ⟨w, hw⟩ := exists_weave? String.Pos.Raw.isValid_zero
    (fun e _ => Nat.zero_le e.span.start) hchain hfit'
  refine ⟨sorted, w, hperm, hchain, hw, fun es' hes' => ?_, ?_⟩
  · exact applyAll?_eq_weave? hchain (hes'.trans hperm.symm) hw
  · have hbytes : ∀ e ∈ sorted, e.span.start ≤ e.span.stop ∧
        e.span.stop ≤ s.toByteArray.size := by
      intro e he
      obtain ⟨hle, -, hstop⟩ := hfit' e he
      exact ⟨hle, hstop.le_rawEndPos⟩
    have hkept : kept s es = kept s sorted := by
      rw [kept, kept, keptFrom, keptFrom, leaves_perm hperm]
    rw [hkept, utf8_of_weave? hw]
    exact keptFrom_sublist (fun e _ => Nat.zero_le e.span.start) hbytes hchain

/-- A range that becomes shorter, one that becomes longer and an empty one at the front, in every
order in which they can be given. -/
theorem spliced_of_apart_mixed :
    (∀ e ∈ [⟨⟨3, 5⟩, ""⟩, ⟨⟨0, 0⟩, "ß"⟩, ⟨⟨1, 3⟩, "oe"⟩], Span.Within (span e) "xöyz") ∧
      [⟨⟨3, 5⟩, ""⟩, ⟨⟨0, 0⟩, "ß"⟩, ⟨⟨1, 3⟩, "oe"⟩].Pairwise Apart ∧
      ∀ es' : List Edit, es'.Perm [⟨⟨3, 5⟩, ""⟩, ⟨⟨0, 0⟩, "ß"⟩, ⟨⟨1, 3⟩, "oe"⟩] →
        applyAll? es' "xöyz" = some "ßxoe" := by
  have hfit : ∀ e ∈ [⟨⟨3, 5⟩, ""⟩, ⟨⟨0, 0⟩, "ß"⟩, ⟨⟨1, 3⟩, "oe"⟩],
      Span.Within (span e) "xöyz" := by
    decide +kernel
  have hapart : [⟨⟨3, 5⟩, ""⟩, ⟨⟨0, 0⟩, "ß"⟩, ⟨⟨1, 3⟩, "oe"⟩].Pairwise Apart := by decide
  have hsorted : applyAll? [⟨⟨0, 0⟩, "ß"⟩, ⟨⟨1, 3⟩, "oe"⟩, ⟨⟨3, 5⟩, ""⟩] "xöyz" =
      some "ßxoe" := by
    refine applyAll?_eq_weave? ?_ (List.Perm.refl _) (by decide +kernel)
    simp [precedes_iff]
  obtain ⟨_, w, _, _, _, hall, _⟩ := spliced_of_apart hfit hapart
  have hw : w = "ßxoe" := by
    rw [hall _ (by decide)] at hsorted
    exact Option.some.inj hsorted
  rw [← hw]
  exact ⟨hfit, hapart, hall⟩

end CustomProps.Edit
