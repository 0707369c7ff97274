import CustomProps.Proofs.Value.Marks
/-!
# Where calls begin

A call can begin where, outside strings, `var(` is read that does not continue an identifier. Such a
place is a site of the text. Searching on from a place where a word may begin finds the first site
of what is left, and nothing else.
-/
namespace CustomProps.Value

/-! ### Sites of a text -/

/-- `var(` in any mixture of cases. -/
def IsOpening (w : List UInt8) : Prop := w.map Ascii.toLower = opening.toByteArray.data.toList

instance (w : List UInt8) : Decidable (IsOpening w) :=
  inferInstanceAs (Decidable (_ = _))

/-- The text ends with a byte of an identifier. -/
def EndsIdent (l : List UInt8) : Prop := ∃ x, l.getLast? = some x ∧ Ascii.isIdent x = true

instance (l : List UInt8) : Decidable (EndsIdent l) :=
  decidable_of_iff (l.getLast?.any Ascii.isIdent = true) (by simp [EndsIdent, Option.any_eq_true])

/-- A call can begin at `p`. -/
structure Site (l : List UInt8) (p : Nat) : Prop where
  outside : Quoting.outside.after (l.take p) = .outside
  opening : IsOpening ((l.drop p).take 4)
  begins : ¬EndsIdent (l.take p)

theorem isOpening_iff {w : List UInt8} :
    IsOpening w ↔ ∃ x y z, w = [x, y, z, Ascii.openParen] ∧ Ascii.toLower x = 0x76 ∧
      Ascii.toLower y = 0x61 ∧ Ascii.toLower z = 0x72 := by
  have hword : opening.toByteArray.data.toList = [0x76, 0x61, 0x72, 0x28] := by decide
  unfold IsOpening
  rw [hword]
  constructor
  · intro h
    rcases w with _ | ⟨x, _ | ⟨y, _ | ⟨z, _ | ⟨p, _ | ⟨r, w⟩⟩⟩⟩⟩
    all_goals simp at h
    obtain ⟨hx, hy, hz, hp⟩ := h
    exact ⟨x, y, z, by rw [(Ascii.toLower_eq_openParen_iff p).mp hp], hx, hy, hz⟩
  · rintro ⟨x, y, z, rfl, hx, hy, hz⟩
    simp [hx, hy, hz]
    decide

theorem IsOpening.length {w : List UInt8} (h : IsOpening w) : w.length = 4 := by
  obtain ⟨x, y, z, rfl, -⟩ := isOpening_iff.mp h
  rfl

@[simp]
theorem not_endsIdent_nil : ¬EndsIdent [] := by
  rintro ⟨x, hx, -⟩
  cases hx

theorem endsIdent_concat {l : List UInt8} {x : UInt8} :
    EndsIdent (l ++ [x]) ↔ Ascii.isIdent x = true := by
  simp [EndsIdent]

theorem endsIdent_append {l m : List UInt8} (hm : m ≠ []) : EndsIdent (l ++ m) ↔ EndsIdent m := by
  unfold EndsIdent
  rw [List.getLast?_append, List.getLast?_eq_some_getLast hm, Option.some_or]

namespace Site

variable {l m : List UInt8} {p : Nat}

theorem add_four_le (h : Site l p) : p + 4 ≤ l.length := by
  have hlen := h.opening.length
  simp only [List.length_take, List.length_drop] at hlen
  omega

theorem append_iff (hp : p + 4 ≤ l.length) : Site (l ++ m) p ↔ Site l p := by
  have htake : (l ++ m).take p = l.take p := List.take_append_of_le_length (by omega)
  have hdrop : ((l ++ m).drop p).take 4 = (l.drop p).take 4 := by
    rw [List.drop_append_of_le_length (by omega),
      List.take_append_of_le_length (by rw [List.length_drop]; omega)]
  constructor
  · rintro ⟨ho, hw, hb⟩
    rw [htake] at ho hb
    rw [hdrop] at hw
    exact ⟨ho, hw, hb⟩
  · rintro ⟨ho, hw, hb⟩
    refine ⟨?_, ?_, ?_⟩
    · rw [htake]
      exact ho
    · rw [hdrop]
      exact hw
    · rw [htake]
      exact hb

theorem getElem? (h : Site l p) : l[p + 3]? = some Ascii.openParen := by
  obtain ⟨x, y, z, hw, -⟩ := isOpening_iff.mp h.opening
  have hlast : ((l.drop p).take 4)[3]? = some Ascii.openParen := by
    rw [hw]
    rfl
  rw [List.getElem?_take_of_lt (by omega), List.getElem?_drop] at hlast
  exact hlast

end Site

/-- `var(` that ends a text whose other sites are none is its first site. -/
theorem first_site {l w m : List UInt8} (hl : ∀ p, ¬Site l p)
    (ho : Quoting.outside.after l = .outside) (hb : ¬EndsIdent l) (hw : IsOpening w) :
    Site (l ++ (w ++ m)) l.length ∧ ∀ p < l.length, ¬Site (l ++ (w ++ m)) p := by
  have hw4 := hw.length
  constructor
  · refine ⟨?_, ?_, ?_⟩
    · rw [List.take_left]
      exact ho
    · rw [List.drop_left, List.take_append_of_le_length (by omega),
        List.take_of_length_le (by omega)]
      exact hw
    · rw [List.take_left]
      exact hb
  · intro p hp h
    by_cases hle : p + 4 ≤ l.length
    · exact hl p ((Site.append_iff hle).mp h)
    · -- the parenthesis of such a site would be one of the three letters
      obtain ⟨x, y, z, rfl, hx, hy, hz⟩ := isOpening_iff.mp hw
      have hparen := h.getElem?
      rw [List.getElem?_append_right (by omega)] at hparen
      have hcase : p + 3 - l.length = 0 ∨ p + 3 - l.length = 1 ∨ p + 3 - l.length = 2 := by omega
      rcases hcase with hn | hn | hn
      all_goals
        rw [hn] at hparen
        simp only [List.cons_append, List.getElem?_cons_zero, List.getElem?_cons_succ,
          Option.some.injEq] at hparen
        subst hparen
      · revert hx; decide
      · revert hy; decide
      · revert hz; decide

/-! ### Texts in parts -/

namespace Site

variable {k l rest : List UInt8} {n p q : Nat} {x : UInt8}

theorem prepend_iff (hk : Quoting.outside.after k = .outside) (hb : ¬EndsIdent k) :
    Site (k ++ l) (k.length + n) ↔ Site l n := by
  have htake : (k ++ l).take (k.length + n) = k ++ l.take n := List.take_length_add_append n
  have hdrop : (k ++ l).drop (k.length + n) = l.drop n := List.drop_length_add_append n
  have hident : EndsIdent (k ++ l.take n) ↔ EndsIdent (l.take n) := by
    by_cases hnil : l.take n = []
    · rw [hnil, List.append_nil]
      exact iff_of_false hb not_endsIdent_nil
    · exact endsIdent_append hnil
  constructor
  · rintro ⟨ho, hw, hbegins⟩
    rw [htake, Quoting.after_append, hk] at ho
    rw [hdrop] at hw
    rw [htake, hident] at hbegins
    exact ⟨ho, hw, hbegins⟩
  · rintro ⟨ho, hw, hbegins⟩
    refine ⟨?_, ?_, ?_⟩
    · rw [htake, Quoting.after_append, hk]
      exact ho
    · rw [hdrop]
      exact hw
    · rw [htake, hident]
      exact hbegins

/-- The bytes of a site. -/
theorem getElem?_letters (h : Site l p) : ∃ x y z, Ascii.toLower x = 0x76 ∧ Ascii.toLower y = 0x61 ∧
    Ascii.toLower z = 0x72 ∧ l[p]? = some x ∧ l[p + 1]? = some y ∧ l[p + 2]? = some z := by
  obtain ⟨x, y, z, hw, hx, hy, hz⟩ := isOpening_iff.mp h.opening
  have hat : ∀ j, j < 4 → l[p + j]? = [x, y, z, Ascii.openParen][j]? := by
    intro j hj
    rw [← hw, List.getElem?_take_of_lt hj, List.getElem?_drop]
  exact ⟨x, y, z, hx, hy, hz, hat 0 (by omega), hat 1 (by omega), hat 2 (by omega)⟩

/-- A comma or a closing parenthesis is none of the four bytes of a site. -/
theorem not_mark (h : Site l p) (hpq : p ≤ q) (hq : q < p + 4) (hx : l[q]? = some x) :
    x ≠ Ascii.comma ∧ x ≠ Ascii.closeParen := by
  have hword : ((l.drop p).take 4).map Ascii.toLower = Value.opening.toByteArray.data.toList :=
    h.opening
  have hmem : Ascii.toLower x ∈ Value.opening.toByteArray.data.toList := by
    rw [← hword]
    refine List.mem_map_of_mem (List.mem_iff_getElem?.mpr ⟨q - p, ?_⟩)
    rw [List.getElem?_take_of_lt (by omega), List.getElem?_drop, Nat.add_sub_cancel' hpq, hx]
  constructor
  all_goals
    rintro rfl
    revert hmem
    decide

/-- Two sites do not overlap. -/
theorem add_four_le_of_lt (hp : Site l p) (hq : Site l q) (hpq : p < q) : p + 4 ≤ q := by
  obtain ⟨u, v, w, -, hv, hw, -, h₁, h₂⟩ := hp.getElem?_letters
  obtain ⟨x, -, -, hx, -, -, hat, -, -⟩ := hq.getElem?_letters
  refine Nat.le_of_not_lt fun hlt => ?_
  have hcase : q = p + 1 ∨ q = p + 2 ∨ q = p + 3 := by omega
  rcases hcase with rfl | rfl | rfl
  · rw [Option.some.inj (h₁.symm.trans hat), hx] at hv
    revert hv
    decide
  · rw [Option.some.inj (h₂.symm.trans hat), hx] at hw
    revert hw
    decide
  · rw [← Option.some.inj (hp.getElem?.symm.trans hat)] at hx
    revert hx
    decide

/-- Behind a text that closes its strings, a comma or a closing parenthesis parts the sites. -/
theorem append_mark_iff (hk : Quoting.outside.after k = .outside)
    (hx : x = Ascii.comma ∨ x = Ascii.closeParen) :
    Site (k ++ x :: rest) n ↔ Site k n ∨ ∃ m, n = k.length + 1 + m ∧ Site rest m := by
  have hlen : (k ++ [x]).length = k.length + 1 := by simp
  have hsplit : k ++ x :: rest = (k ++ [x]) ++ rest := by simp
  have hclosed : Quoting.outside.after (k ++ [x]) = .outside := by
    rw [Quoting.after_append, hk]
    rcases hx with rfl | rfl
    all_goals rfl
  have hbegins : ¬EndsIdent (k ++ [x]) := by
    rw [endsIdent_concat]
    rcases hx with rfl | rfl
    all_goals decide
  have hmark : (k ++ x :: rest)[k.length]? = some x := by
    rw [List.getElem?_append_right (Nat.le_refl _), Nat.sub_self, List.getElem?_cons_zero]
  constructor
  · intro h
    by_cases hle : n + 4 ≤ k.length
    · exact Or.inl ((append_iff hle).mp h)
    · by_cases hin : n ≤ k.length
      · obtain ⟨hcomma, hclose⟩ := h.not_mark hin (by omega) hmark
        rcases hx with hx | hx
        · exact absurd hx hcomma
        · exact absurd hx hclose
      · obtain ⟨m, rfl⟩ := Nat.exists_eq_add_of_le (show k.length + 1 ≤ n by omega)
        rw [hsplit, ← hlen] at h
        exact Or.inr ⟨m, rfl, (prepend_iff hclosed hbegins).mp h⟩
  · rintro (h | ⟨m, rfl, h⟩)
    · exact (append_iff h.add_four_le).mpr h
    · rw [hsplit, ← hlen]
      exact (prepend_iff hclosed hbegins).mpr h

end Site

/-! ### The search for a call -/

section Search

variable {b : ByteArray}

theorem readsVar_iff {i : Nat} (h : i + 4 ≤ b.size) :
    readsVar b i h = true ↔ IsOpening (between b i (i + 4)) := by
  rw [between_of_lt (by omega) h, between_of_lt (by omega) h, between_of_lt (by omega) h,
    between_of_lt (by omega) h, between_self, isOpening_iff]
  simp only [readsVar, Bool.and_eq_true, beq_iff_eq]
  constructor
  · rintro ⟨⟨⟨hx, hy⟩, hz⟩, hp⟩
    exact ⟨_, _, _, by rw [hp], hx, hy, hz⟩
  · rintro ⟨x, y, z, hw, hx, hy, hz⟩
    simp only [List.cons.injEq, and_true] at hw
    obtain ⟨rfl, rfl, rfl, hp⟩ := hw
    exact ⟨⟨⟨hx, hy⟩, hz⟩, hp⟩

theorem isQuote_of_readsVar {i : Nat} {h : i + 4 ≤ b.size} {hi : i < b.size}
    (hr : readsVar b i h = true) :
    Ascii.isQuote b[i] = false := by
  simp only [readsVar, Bool.and_eq_true, beq_iff_eq] at hr
  exact (Ascii.marks_of_toLower _ (Or.inl hr.1.1.1)).1

theorem beginsWord_iff {i p : Nat} (hi : i ≤ p) (hp : p ≤ b.size)
    (hb : beginsWord b i (by omega) = true) :
    beginsWord b p hp = true ↔ ¬EndsIdent (between b i p) := by
  by_cases hip : i = p
  · subst hip
    simp [hb]
  · have hlast : between b i p = between b i (p - 1) ++ [b[p - 1]] := by
      rw [← between_append (j := p - 1) (by omega) (by omega),
        between_of_lt (i := p - 1) (by omega) hp]
      have hn : p - 1 + 1 = p := by omega
      rw [hn, between_self]
    have h0 : 0 < p := by omega
    rw [hlast, endsIdent_concat]
    simp [beginsWord, h0]

variable {stop : Nat} (hs : stop ≤ b.size)

/-- The sites of a stretch, in terms of what the search tests. -/
theorem site_between_iff {i p : Nat} (hi : i ≤ p) (hp : p + 4 ≤ stop)
    (hb : beginsWord b i (by omega) = true) :
    Site (between b i stop) (p - i) ↔ Quoting.outside.after (between b i p) = .outside ∧
      readsVar b p (by omega) = true ∧ beginsWord b p (by omega) = true := by
  have hsplit : between b i stop = between b i p ++ (between b p (p + 4) ++ between b (p + 4) stop) := by
    rw [between_append (by omega) (by omega), between_append (by omega) (by omega)]
  have hlen : (between b i p).length = p - i := length_between (by omega)
  have hword : (between b p (p + 4)).length = 4 := by
    rw [length_between (by omega)]
    omega
  have htake : (between b i stop).take (p - i) = between b i p := by
    rw [hsplit, ← hlen, List.take_left]
  have hdrop : ((between b i stop).drop (p - i)).take 4 = between b p (p + 4) := by
    rw [hsplit, ← hlen, List.drop_left, List.take_append_of_le_length (by omega),
      List.take_of_length_le (by omega)]
  rw [readsVar_iff, beginsWord_iff hi (by omega) hb]
  constructor
  · rintro ⟨ho, hw, hbw⟩
    rw [htake] at ho hbw
    rw [hdrop] at hw
    exact ⟨ho, hw, hbw⟩
  · rintro ⟨ho, hw, hbw⟩
    rw [← htake] at ho hbw
    rw [← hdrop] at hw
    exact ⟨ho, hw, hbw⟩

theorem outside_between_skipString {i p : Nat} (hi : i < stop) {hb : i < b.size}
    (hq : Ascii.isQuote b[i] = true)
    (hip : skipString b hs i hi ≤ p) (hp : p < stop) :
    Quoting.outside.after (between b i p) =
      Quoting.outside.after (between b (skipString b hs i hi) p) := by
  have hlt := lt_skipString b hs i hi
  rw [← between_append (Nat.le_of_lt hlt) hip, Quoting.after_append,
    after_skipString hs hi hq (by omega)]

variable {hs}

theorem findOpen?_eq_none {i : Nat}
    (h : ∀ p, i ≤ p → (hp : p + 4 ≤ stop) → Quoting.outside.after (between b i p) = .outside →
      readsVar b p (Nat.le_trans hp hs) = true →
      beginsWord b p (Nat.le_trans (Nat.le_of_add_right_le hp) hs) = false) :
    findOpen? b hs i = none := by
  fun_induction findOpen? b hs i with
  | case1 i hi hq ih =>
    have hlt := lt_skipString b hs i (by omega)
    refine ih fun p hip hp ho => ?_
    refine h p (by omega) hp ?_
    rw [outside_between_skipString hs (by omega) hq hip (by omega), ho]
  | case2 i hi hq hx =>
    rw [Bool.and_eq_true] at hx
    have hfalse := h i (Nat.le_refl _) hi (by rw [between_self]; rfl) hx.1
    rw [hfalse] at hx
    exact absurd hx.2 Bool.false_ne_true
  | case3 i hi hq hx ih =>
    refine ih fun p hip hp ho => ?_
    refine h p (by omega) hp ?_
    have hnext : Quoting.outside.next b[i] = .outside := by simp [Quoting.next, hq]
    rw [between_of_lt (by omega) (by omega), Quoting.after_cons, hnext, ho]
  | case4 => rfl

theorem findOpen?_eq_some {i s : Nat} (his : i ≤ s) (hs4 : s + 4 ≤ stop)
    (ho : Quoting.outside.after (between b i s) = .outside)
    (hr : readsVar b s (by omega) = true) (hb : beginsWord b s (by omega) = true)
    (h : ∀ p, i ≤ p → (hp : p < s) → Quoting.outside.after (between b i p) = .outside →
      readsVar b p (by omega) = true → beginsWord b p (by omega) = false) :
    findOpen? b hs i = some s := by
  fun_induction findOpen? b hs i with
  | case1 i hi hq ih =>
    have hne : i ≠ s := by
      rintro rfl
      rw [isQuote_of_readsVar hr] at hq
      cases hq
    have hle := skipString_le_of_outside hs (by omega) hq (by omega) ho
    have hlt := lt_skipString b hs i (by omega)
    refine ih hle ?_ hr hb fun p hip hp hop => ?_
    · rw [← outside_between_skipString hs (by omega) hq hle (by omega), ho]
    · refine h p (by omega) hp ?_
      rw [outside_between_skipString hs (by omega) hq hip (by omega), hop]
  | case2 i hi hq hx =>
    rw [Bool.and_eq_true] at hx
    by_cases hne : i = s
    · rw [hne]
    · have hfalse := h i (Nat.le_refl _) (by omega) (by rw [between_self]; rfl) hx.1
      rw [hfalse] at hx
      exact absurd hx.2 Bool.false_ne_true
  | case3 i hi hq hx ih =>
    have hne : i ≠ s := by
      rintro rfl
      simp [hr, hb] at hx
    have hnext : Quoting.outside.next b[i] = .outside := by simp [Quoting.next, hq]
    refine ih (by omega) ?_ hr hb fun p hip hp hop => ?_
    · rw [between_of_lt (by omega) (by omega), Quoting.after_cons, hnext] at ho
      exact ho
    · refine h p (by omega) hp ?_
      rw [between_of_lt (by omega) (by omega), Quoting.after_cons, hnext, hop]
  | case4 => omega

theorem findOpen?_of_forall_not_site {i : Nat} (hi : i ≤ stop)
    (hb : beginsWord b i (by omega) = true) (h : ∀ n, ¬Site (between b i stop) n) :
    findOpen? b hs i = none := by
  refine findOpen?_eq_none fun p hip hp ho hr => ?_
  refine Bool.eq_false_iff.mpr fun hbw => ?_
  exact h (p - i) ((site_between_iff hs hip hp hb).mpr ⟨ho, hr, hbw⟩)

/-- Searching on from where a word may begin finds the first site. -/
theorem findOpen?_of_site {i n : Nat} (hi : i ≤ stop) (hb : beginsWord b i (by omega) = true)
    (hn : Site (between b i stop) n) (h : ∀ m < n, ¬Site (between b i stop) m) :
    findOpen? b hs i = some (i + n) := by
  have hlen := hn.add_four_le
  rw [length_between hs] at hlen
  have hat : i + n - i = n := by omega
  obtain ⟨ho, hr, hw⟩ := (site_between_iff hs (p := i + n) (by omega) (by omega) hb).mp
    (by rw [hat]; exact hn)
  refine findOpen?_eq_some (by omega) (by omega) ho hr hw fun p hip hp hop hrp => ?_
  refine Bool.eq_false_iff.mpr fun hbw => ?_
  exact h (p - i) (by omega)
    ((site_between_iff hs hip (by omega) hb).mpr ⟨hop, hrp, hbw⟩)

theorem isOpening_of_findOpen? {i s : Nat} (h : findOpen? b hs i = some s) :
    IsOpening (between b s (s + 4)) := by
  fun_induction findOpen? b hs i with
  | case1 i hi hq ih => exact ih h
  | case2 i hi hq hx =>
    cases h
    rw [Bool.and_eq_true] at hx
    exact (readsVar_iff _).mp hx.1
  | case3 i hi hq hx ih => exact ih h
  | case4 => cases h

end Search

end CustomProps.Value
