import CustomProps.Proofs.Value.Nesting
/-!
# What the searches of a value find

The string skipper, the parenthesis search and the comma search answer what the reader of
`Nesting` says of the bytes they look at. The bound of a search matters only for strings that do not
close, so a search answers the same whenever the bytes up to its answer are the same.
-/
namespace CustomProps.Value

variable {b : ByteArray} {stop : Nat} (hs : stop ≤ b.size)

/-! ### Strings -/

theorem after_stringEnd (q : UInt8) (i : Nat) :
    (∀ p, i ≤ p → p < stringEnd b hs q i →
        (Quoting.inside q).after (between b i p) ≠ .outside) ∧
      (stringEnd b hs q i < stop →
        (Quoting.inside q).after (between b i (stringEnd b hs q i)) = .outside) := by
  fun_induction stringEnd b hs q i with
  | case1 i hi hx ih =>
    have hnext : (Quoting.inside q).next b[i] = .escaped q := by simp [Quoting.next, hx]
    have hstep : ∀ p, i + 2 ≤ p → p ≤ stop → (Quoting.inside q).after (between b i p) =
        (Quoting.inside q).after (between b (i + 2) p) := by
      intro p hp hps
      rw [between_of_lt (show i < p by omega) (by omega),
        between_of_lt (show i + 1 < p by omega) (by omega), Quoting.after_cons, hnext,
        Quoting.after_cons]
      rfl
    have hle := stringEnd_le b hs q (i + 2)
    refine ⟨fun p hip hp => ?_, fun hlt => ?_⟩
    · by_cases h₀ : p = i
      · rw [h₀, between_self]
        simp
      · by_cases h₁ : p = i + 1
        · rw [h₁, between_of_lt (by omega) (by omega), between_self, Quoting.after_cons, hnext]
          simp
        · rw [hstep p (by omega) (by omega)]
          exact ih.1 p (by omega) hp
    · have hmin := min_le_stringEnd b hs q (i + 2)
      rw [hstep _ (by omega) hle]
      exact ih.2 hlt
  | case2 i hi hx hq =>
    have hnext : (Quoting.inside q).next b[i] = .outside := by
      subst hq
      simp [Quoting.next, hx]
    refine ⟨fun p hip hp => ?_, fun hlt => ?_⟩
    · have hpi : p = i := by omega
      rw [hpi, between_self]
      simp
    · rw [between_of_lt (by omega) (by omega), between_self, Quoting.after_cons, hnext]
      rfl
  | case3 i hi hx hq ih =>
    have hnext : (Quoting.inside q).next b[i] = .inside q := by simp [Quoting.next, hx, hq]
    have hstep : ∀ p, i + 1 ≤ p → p ≤ stop → (Quoting.inside q).after (between b i p) =
        (Quoting.inside q).after (between b (i + 1) p) := by
      intro p hp hps
      rw [between_of_lt (show i < p by omega) (by omega), Quoting.after_cons, hnext]
    have hle := stringEnd_le b hs q (i + 1)
    refine ⟨fun p hip hp => ?_, fun hlt => ?_⟩
    · by_cases h₀ : p = i
      · rw [h₀, between_self]
        simp
      · rw [hstep p (by omega) (by omega)]
        exact ih.1 p (by omega) hp
    · have hmin := min_le_stringEnd b hs q (i + 1)
      rw [hstep _ (by omega) hle]
      exact ih.2 hlt
  | case4 i hi =>
    refine ⟨fun p hip hp => ?_, fun hlt => ?_⟩
    · omega
    · omega

section Skip

variable {i : Nat} (hi : i < stop) {hb : i < b.size} (hq : Ascii.isQuote b[i] = true)

include hq in
theorem after_ne_outside_of_lt_skipString {p : Nat} (hip : i < p)
    (hp : p < skipString b hs i hi) : Quoting.outside.after (between b i p) ≠ .outside := by
  have hle := skipString_le b hs i hi
  have hnext : Quoting.outside.next b[i] = .inside b[i] := by simp [Quoting.next, hq]
  rw [between_of_lt hip (by omega), Quoting.after_cons, hnext]
  exact (after_stringEnd hs b[i] (i + 1)).1 p hip hp

include hq in
theorem after_skipString (h : skipString b hs i hi < stop) :
    Quoting.outside.after (between b i (skipString b hs i hi)) = .outside := by
  have hlt := lt_skipString b hs i hi
  have hle := skipString_le b hs i hi
  have hnext : Quoting.outside.next b[i] = .inside b[i] := by simp [Quoting.next, hq]
  rw [between_of_lt hlt (by omega), Quoting.after_cons, hnext]
  exact (after_stringEnd hs b[i] (i + 1)).2 h

include hq in
theorem readPart?_skipString (d : Nat) :
    Nesting.readPart? ⟨.outside, d⟩ (between b i (skipString b hs i hi)) =
      some ⟨Quoting.outside.after (between b i (skipString b hs i hi)), d⟩ := by
  have hlt := lt_skipString b hs i hi
  have hle := skipString_le b hs i hi
  have hnext : Quoting.outside.next b[i] = .inside b[i] := by simp [Quoting.next, hq]
  have hpart : Nesting.nextPart? ⟨.outside, d⟩ b[i] = some ⟨.inside b[i], d⟩ := by
    obtain ⟨ho, hc, hm⟩ := Ascii.ne_of_isQuote b[i] hq
    rw [Nesting.nextPart?, if_neg (fun h => hm h.2), Nesting.next?_outside ho hc, hnext]
  rw [between_of_lt hlt (by omega), Nesting.readPart?_cons, hpart, Quoting.after_cons, hnext]
  refine Nesting.readPart?_of_forall_ne_outside d fun n hn => ?_
  rw [length_between (by omega)] at hn
  have htake : (between b (i + 1) (skipString b hs i hi)).take n = between b (i + 1) (i + 1 + n) := by
    have happ := between_append (b := b) (i := i + 1) (j := i + 1 + n)
      (k := skipString b hs i hi) (by omega) (by omega)
    rw [← happ, List.take_append_of_le_length (by rw [length_between (by omega)]; omega),
      List.take_of_length_le (by rw [length_between (by omega)]; omega)]
  rw [htake]
  exact (after_stringEnd hs b[i] (i + 1)).1 (i + 1 + n) (by omega) (by unfold skipString at hn; omega)

include hq in
theorem readPart?_between_of_isQuote {k : Nat} (d : Nat) (hik : skipString b hs i hi ≤ k)
    (hclosed : skipString b hs i hi < stop) :
    Nesting.readPart? ⟨.outside, d⟩ (between b i k) =
      Nesting.readPart? ⟨.outside, d⟩ (between b (skipString b hs i hi) k) := by
  have hlt := lt_skipString b hs i hi
  rw [← between_append (Nat.le_of_lt hlt) hik, Nesting.readPart?_append,
    readPart?_skipString hs hi hq, after_skipString hs hi hq hclosed]
  rfl

include hq in
theorem read?_between_of_isQuote {k : Nat} (d : Nat) (hik : skipString b hs i hi ≤ k)
    (hclosed : skipString b hs i hi < stop) :
    Nesting.read? ⟨.outside, d⟩ (between b i k) =
      Nesting.read? ⟨.outside, d⟩ (between b (skipString b hs i hi) k) := by
  have hlt := lt_skipString b hs i hi
  rw [← between_append (Nat.le_of_lt hlt) hik, Nesting.read?_append,
    Nesting.read?_of_readPart? (readPart?_skipString hs hi hq d),
    after_skipString hs hi hq hclosed]
  rfl

include hq in
theorem skipString_le_of_outside {k : Nat} (hik : i < k)
    (ho : Quoting.outside.after (between b i k) = .outside) : skipString b hs i hi ≤ k :=
  Nat.le_of_not_lt fun hlt => after_ne_outside_of_lt_skipString hs hi hq hik hlt ho

end Skip

/-! ### Parentheses and commas -/

variable {hs}

theorem findClose?_eq_none {depth i : Nat} (his : i ≤ stop)
    (hr : Nesting.read? ⟨.outside, depth⟩ (between b i stop) ≠ none) :
    findClose? b hs depth i = none := by
  fun_induction findClose? b hs depth i with
  | case1 depth i hi hq ih =>
    have hle := skipString_le b hs i hi
    by_cases hend : skipString b hs i hi < stop
    · rw [read?_between_of_isQuote hs hi hq depth hle hend] at hr
      exact ih hle hr
    · have heq : skipString b hs i hi = stop := by omega
      refine ih hle ?_
      rw [heq, between_self]
      exact Option.some_ne_none _
  | case2 depth i hi hq ho ih =>
    rw [between_of_lt hi hs, Nesting.read?_cons, ho, Nesting.next?_openParen] at hr
    exact ih (by omega) hr
  | case3 i hi hq ho hc =>
    rw [between_of_lt hi hs, Nesting.read?_cons, hc] at hr
    exact absurd rfl hr
  | case4 i hi hq ho hc depth ih =>
    rw [between_of_lt hi hs, Nesting.read?_cons, hc, Nesting.next?_closeParen_succ] at hr
    exact ih (by omega) hr
  | case5 depth i hi hq ho hc ih =>
    have hnext : Quoting.outside.next b[i] = .outside := by simp [Quoting.next, hq]
    rw [between_of_lt hi hs, Nesting.read?_cons, Nesting.next?_outside ho hc, hnext] at hr
    exact ih (by omega) hr
  | case6 => rfl

theorem findClose?_eq_some {depth i k : Nat} (hik : i ≤ k) (hk : k < stop)
    (hr : Nesting.read? ⟨.outside, depth⟩ (between b i k) = some .top)
    (hc : b[k] = Ascii.closeParen) : findClose? b hs depth i = some k := by
  fun_induction findClose? b hs depth i with
  | case1 depth i hi hq ih =>
    have hne : i ≠ k := by
      rintro rfl
      exact (Ascii.ne_of_isQuote _ hq).2.1 hc
    have hle := skipString_le_of_outside hs hi hq (by omega) (Nesting.quoting_of_read? hr).symm
    rw [read?_between_of_isQuote hs hi hq depth hle (by omega)] at hr
    exact ih hle hr hc
  | case2 depth i hi hq ho ih =>
    have hne : i ≠ k := by
      rintro rfl
      exact Ascii.closeParen_ne_openParen (hc.symm.trans ho)
    rw [between_of_lt (by omega) (by omega), Nesting.read?_cons, ho,
      Nesting.next?_openParen] at hr
    exact ih (by omega) hr hc
  | case3 i hi hq ho hc' =>
    by_cases hne : i = k
    · rw [hne]
    · rw [between_of_lt (by omega) (by omega), Nesting.read?_cons, hc'] at hr
      cases hr
  | case4 i hi hq ho hc' depth ih =>
    have hne : i ≠ k := by
      rintro rfl
      rw [between_self] at hr
      cases hr
    rw [between_of_lt (by omega) (by omega), Nesting.read?_cons, hc',
      Nesting.next?_closeParen_succ] at hr
    exact ih (by omega) hr hc
  | case5 depth i hi hq ho hc' ih =>
    have hne : i ≠ k := by
      rintro rfl
      exact hc' hc
    have hnext : Quoting.outside.next b[i] = .outside := by simp [Quoting.next, hq]
    rw [between_of_lt (by omega) (by omega), Nesting.read?_cons, Nesting.next?_outside ho hc',
      hnext] at hr
    exact ih (by omega) hr hc
  | case6 => omega

theorem findComma?_eq_none {depth i : Nat} (his : i ≤ stop)
    (hr : Nesting.readPart? ⟨.outside, depth⟩ (between b i stop) ≠ none) :
    findComma? b hs depth i = none := by
  fun_induction findComma? b hs depth i with
  | case1 depth i hi hq ih =>
    have hle := skipString_le b hs i hi
    by_cases hend : skipString b hs i hi < stop
    · rw [readPart?_between_of_isQuote hs hi hq depth hle hend] at hr
      exact ih hle hr
    · have heq : skipString b hs i hi = stop := by omega
      refine ih hle ?_
      rw [heq, between_self]
      exact Option.some_ne_none _
  | case2 depth i hi hq ho ih =>
    rw [between_of_lt hi hs, Nesting.readPart?_cons, ho, Nesting.nextPart?_openParen] at hr
    exact ih (by omega) hr
  | case3 depth i hi hq ho hc ih =>
    rw [between_of_lt hi hs, Nesting.readPart?_cons, hc] at hr
    cases depth with
    | zero => exact absurd rfl hr
    | succ depth =>
      rw [Nesting.nextPart?_closeParen_succ] at hr
      exact ih (by omega) hr
  | case4 depth i hi hq ho hc hm =>
    rw [between_of_lt hi hs, Nesting.readPart?_cons, hm.1, hm.2] at hr
    exact absurd rfl hr
  | case5 depth i hi hq ho hc hm ih =>
    rw [between_of_lt hi hs, Nesting.readPart?_cons,
      Nesting.nextPart?_plain (by simpa using hq) ho hc fun hx hd => hm ⟨hx, hd⟩] at hr
    exact ih (by omega) hr
  | case6 => rfl

theorem findComma?_eq_some {depth i c : Nat} (hic : i ≤ c) (hcs : c < stop)
    (hr : Nesting.readPart? ⟨.outside, depth⟩ (between b i c) = some .top)
    (hm : b[c] = Ascii.comma) : findComma? b hs depth i = some c := by
  fun_induction findComma? b hs depth i with
  | case1 depth i hi hq ih =>
    have hne : i ≠ c := by
      rintro rfl
      exact (Ascii.ne_of_isQuote _ hq).2.2 hm
    have hle := skipString_le_of_outside hs hi hq (by omega)
      (Nesting.quoting_of_read? (Nesting.read?_of_readPart? hr)).symm
    rw [readPart?_between_of_isQuote hs hi hq depth hle (by omega)] at hr
    exact ih hle hr hm
  | case2 depth i hi hq ho ih =>
    have hne : i ≠ c := by
      rintro rfl
      exact Ascii.comma_ne_openParen (hm.symm.trans ho)
    rw [between_of_lt (by omega) (by omega), Nesting.readPart?_cons, ho,
      Nesting.nextPart?_openParen] at hr
    exact ih (by omega) hr hm
  | case3 depth i hi hq ho hc ih =>
    have hne : i ≠ c := by
      rintro rfl
      exact Ascii.comma_ne_closeParen (hm.symm.trans hc)
    rw [between_of_lt (by omega) (by omega), Nesting.readPart?_cons, hc] at hr
    cases depth with
    | zero => cases hr
    | succ depth =>
      rw [Nesting.nextPart?_closeParen_succ] at hr
      exact ih (by omega) hr hm
  | case4 depth i hi hq ho hc hm' =>
    by_cases hne : i = c
    · rw [hne]
    · rw [between_of_lt (by omega) (by omega), Nesting.readPart?_cons, hm'.1, hm'.2] at hr
      cases hr
  | case5 depth i hi hq ho hc hm' ih =>
    have hne : i ≠ c := by
      rintro rfl
      rw [between_self] at hr
      cases hr
      exact hm' ⟨hm, rfl⟩
    rw [between_of_lt (by omega) (by omega), Nesting.readPart?_cons,
      Nesting.nextPart?_plain (by simpa using hq) ho hc fun hx hd => hm' ⟨hx, hd⟩] at hr
    exact ih (by omega) hr hm
  | case6 => omega

/-! ### Where a search stops -/

theorem getElem_of_findClose? {depth i k : Nat} (h : findClose? b hs depth i = some k) :
    ∃ hk : k < b.size, b[k] = Ascii.closeParen := by
  fun_induction findClose? b hs depth i with
  | case3 i hi hq ho hc =>
    cases h
    exact ⟨Nat.lt_of_lt_of_le hi hs, hc⟩
  | case6 => cases h
  | _ => exact ‹_ → _› h

theorem getElem_of_findComma? {depth i c : Nat} (h : findComma? b hs depth i = some c) :
    ∃ hc : c < b.size, b[c] = Ascii.comma := by
  fun_induction findComma? b hs depth i with
  | case4 depth i hi hq ho hc hm =>
    cases h
    exact ⟨Nat.lt_of_lt_of_le hi hs, hm.1⟩
  | case6 => cases h
  | _ => exact ‹_ → _› h

end CustomProps.Value
