import CustomProps.Proofs.Value.Steps
/-!
# Text in front of the next call

While a value is read piece by piece, the text since the last call is pending: no call begins in it,
and all its strings are closed. It stays so with every piece that is no call, except that an opening
parenthesis must not make a call of the bytes in front of it.
-/
namespace CustomProps.Value

/-- No call begins in the text, and no string is open at its end. -/
structure Pending (l : List UInt8) : Prop where
  noSite : ∀ n, ¬Site l n
  closed : Quoting.outside.after l = .outside

/-- An opening parenthesis behind the text would make a call. -/
def EndsVar (l : List UInt8) : Prop :=
  ∃ m w, l = m ++ w ∧ IsOpening (w ++ [Ascii.openParen]) ∧ ¬EndsIdent m

theorem endsVar_iff {l : List UInt8} : EndsVar l ↔
    IsOpening (l.drop (l.length - 3) ++ [Ascii.openParen]) ∧
      ¬EndsIdent (l.take (l.length - 3)) := by
  constructor
  · rintro ⟨m, w, rfl, hw, hm⟩
    have hlen := hw.length
    rw [List.length_append, List.length_singleton] at hlen
    have hsplit : (m ++ w).length - 3 = m.length := by
      rw [List.length_append]
      omega
    rw [hsplit, List.drop_left, List.take_left]
    exact ⟨hw, hm⟩
  · rintro ⟨hw, hm⟩
    exact ⟨_, _, (List.take_append_drop _ l).symm, hw, hm⟩

instance (l : List UInt8) : Decidable (EndsVar l) := decidable_of_iff _ endsVar_iff.symm

/-- A string that `q` opened is still open anywhere in the text, and at its end. -/
structure Stays (q : UInt8) (l : List UInt8) : Prop where
  during : ∀ n, (Quoting.inside q).after (l.take n) ≠ .outside
  atEnd : (Quoting.inside q).after l = .inside q

/-- A string that `q` opened is closed at the end of the text and not before. -/
structure Closes (q : UInt8) (l : List UInt8) : Prop where
  during : ∀ n < l.length, (Quoting.inside q).after (l.take n) ≠ .outside
  atEnd : (Quoting.inside q).after l = .outside

/-- A string from its quote to the first quote that closes it. -/
def IsString (l : List UInt8) : Prop := ∃ q m, l = q :: m ∧ Ascii.isQuote q = true ∧ Closes q m

/-! ### Strings -/

theorem Stays.of_forall {q : UInt8} {l : List UInt8}
    (h : ∀ x ∈ l, x ≠ q ∧ x ≠ Ascii.backslash) : Stays q l := by
  have hall : ∀ m : List UInt8, (∀ x ∈ m, x ∈ l) → (Quoting.inside q).after m = .inside q := by
    intro m hm
    induction m with
    | nil => rfl
    | cons x m ih =>
      obtain ⟨hx, hb⟩ := h x (hm x (List.mem_cons_self ..))
      have hnext : (Quoting.inside q).next x = .inside q := by simp [Quoting.next, hx, hb]
      rw [Quoting.after_cons, hnext]
      exact ih fun y hy => hm y (List.mem_cons_of_mem _ hy)
  constructor
  · intro n
    rw [hall _ fun x hx => List.mem_of_mem_take hx]
    simp
  · exact hall l fun x hx => hx

theorem Stays.backslash {q x : UInt8} {l : List UInt8} (h : Stays q l) :
    Stays q (Ascii.backslash :: x :: l) := by
  have hnext : (Quoting.inside q).next Ascii.backslash = .escaped q := by simp [Quoting.next]
  have hx : (Quoting.escaped q).next x = .inside q := rfl
  constructor
  · intro n
    rcases n with _ | _ | n
    · simp
    · simp [hnext]
    · rw [List.take_succ_cons, List.take_succ_cons, Quoting.after_cons, hnext, Quoting.after_cons, hx]
      exact h.during n
  · rw [Quoting.after_cons, hnext, Quoting.after_cons, hx]
    exact h.atEnd

theorem Closes.quote {q : UInt8} (hq : Ascii.isQuote q = true) : Closes q [q] := by
  constructor
  · intro n hn
    rw [List.length_singleton, Nat.lt_one_iff] at hn
    subst hn
    simp
  · have hb : q ≠ Ascii.backslash := by
      rintro rfl
      revert hq
      decide
    simp [Quoting.next, hb]

theorem Stays.append_closes {q : UInt8} {l m : List UInt8} (hl : Stays q l) (hm : Closes q m) :
    Closes q (l ++ m) := by
  constructor
  · intro n hn
    rw [List.length_append] at hn
    by_cases hle : n ≤ l.length
    · rw [List.take_append_of_le_length hle]
      exact hl.during n
    · rw [List.take_append, List.take_of_length_le (by omega), Quoting.after_append, hl.atEnd]
      exact hm.during _ (by omega)
  · rw [Quoting.after_append, hl.atEnd]
    exact hm.atEnd

theorem IsString.read? {l : List UInt8} (h : IsString l) (d : Nat) :
    Nesting.read? ⟨.outside, d⟩ l = some ⟨.outside, d⟩ := by
  obtain ⟨q, m, rfl, hq, hm⟩ := h
  obtain ⟨ho, hc, -⟩ := Ascii.ne_of_isQuote q hq
  have hnext : Quoting.outside.next q = .inside q := by simp [Quoting.next, hq]
  have hread := Nesting.read?_of_readPart? (Nesting.readPart?_of_forall_ne_outside d hm.during)
  rw [hm.atEnd] at hread
  rw [Nesting.read?_cons, Nesting.next?_outside ho hc, hnext]
  exact hread

/-! ### Pending text -/

theorem isQuote_of_mem_opening {w : List UInt8} (h : IsOpening w) {x : UInt8} (hx : x ∈ w) :
    Ascii.isQuote x = false := by
  obtain ⟨a, b, c, rfl, ha, hb, hc⟩ := isOpening_iff.mp h
  simp only [List.mem_cons, List.not_mem_nil, or_false] at hx
  rcases hx with rfl | rfl | rfl | rfl
  · exact (Ascii.marks_of_toLower _ (Or.inl ha)).1
  · exact (Ascii.marks_of_toLower _ (Or.inr (Or.inl hb))).1
  · exact (Ascii.marks_of_toLower _ (Or.inr (Or.inr hc))).1
  · decide

theorem Site.append_cases {l m : List UInt8} {p : Nat} (h : Site (l ++ m) p) :
    Site l p ∨ ∃ k, p + 3 = l.length + k ∧ m[k]? = some Ascii.openParen := by
  by_cases hle : p + 4 ≤ l.length
  · exact Or.inl ((Site.append_iff hle).mp h)
  · refine Or.inr ⟨p + 3 - l.length, by omega, ?_⟩
    have hparen := h.getElem?
    rwa [List.getElem?_append_right (by omega)] at hparen

namespace Pending

variable {l m : List UInt8}

theorem nil : Pending [] := ⟨Gap.nil.noSite, rfl⟩

theorem gap (h : Pending l) (hb : ¬EndsIdent l) : Gap l := ⟨h.noSite, h.closed, hb⟩

theorem append_of_forall (h : Pending l)
    (hm : ∀ x ∈ m, Ascii.isQuote x = false ∧ x ≠ Ascii.openParen) : Pending (l ++ m) where
  noSite := by
    intro p hsite
    rcases hsite.append_cases with hsite | ⟨k, -, hk⟩
    · exact h.noSite p hsite
    · exact (hm _ (List.mem_of_getElem? hk)).2 rfl
  closed := by
    rw [Quoting.after_append, h.closed]
    exact Quoting.after_outside_of_forall fun x hx => (hm x hx).1

theorem append_openParen (h : Pending l) (hvar : ¬EndsVar l) :
    Pending (l ++ [Ascii.openParen]) where
  noSite := by
    intro p hsite
    rcases hsite.append_cases with hold | ⟨k, hp, hk⟩
    · exact h.noSite p hold
    · have hk0 : k = 0 := by
        have hlt := (List.getElem?_eq_some_iff.mp hk).1
        simpa using hlt
      have hle : p ≤ l.length := by omega
      refine hvar ⟨l.take p, l.drop p, (List.take_append_drop p l).symm, ?_, ?_⟩
      · have hword := hsite.opening
        rw [List.drop_append_of_le_length hle, List.take_of_length_le (by simp; omega)] at hword
        exact hword
      · have hbegins := hsite.begins
        rwa [List.take_append_of_le_length hle] at hbegins
  closed := by
    rw [Quoting.after_append, h.closed]
    rfl

/-- A string that is closed stays pending, whatever it holds. -/
theorem append_string (h : Pending l) (hm : IsString m) : Pending (l ++ m) := by
  obtain ⟨q, m, rfl, hq, hm⟩ := hm
  have hnext : Quoting.outside.next q = .inside q := by simp [Quoting.next, hq]
  constructor
  · intro p hsite
    rcases hsite.append_cases with hold | ⟨k, hp, hk⟩
    · exact h.noSite p hold
    · by_cases hpl : p ≤ l.length
      · -- the quote would be one of the four bytes
        have hmem : q ∈ ((l ++ q :: m).drop p).take 4 := by
          refine List.mem_of_getElem? (i := l.length - p) ?_
          rw [List.getElem?_take_of_lt (by omega), List.getElem?_drop,
            List.getElem?_append_right (by omega), Nat.add_sub_cancel' hpl, Nat.sub_self,
            List.getElem?_cons_zero]
        rw [isQuote_of_mem_opening hsite.opening hmem] at hq
        cases hq
      · have hlt := (List.getElem?_eq_some_iff.mp hk).1
        rw [List.length_cons] at hlt
        have hn : p - l.length = (p - l.length - 1) + 1 := by omega
        have hout := hsite.outside
        rw [List.take_append, List.take_of_length_le (by omega), hn, List.take_succ_cons,
          Quoting.after_append, h.closed, Quoting.after_cons, hnext] at hout
        exact hm.during _ (by omega) hout
  · rw [Quoting.after_append, h.closed, Quoting.after_cons, hnext]
    exact hm.atEnd

end Pending
end CustomProps.Value
