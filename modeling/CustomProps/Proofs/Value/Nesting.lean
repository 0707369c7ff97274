import CustomProps.Proofs.Text.Bytes
import CustomProps.Value.Lexical
/-!
# Reading a value from left to right

The searches of a value start over at many places and stop at many bounds. Here is the one reader
that they all agree with: it takes one byte at a time and knows whether it stands in a quoted string
and how many parentheses are open. It gets stuck at a closing parenthesis that nothing opened, and
the reader of a name part also at a comma outside all parentheses. What it does on two texts in a
row is what it does on the second from where the first left it.
-/
namespace CustomProps.Value

/-! ### Stretches of bytes -/

/-- The bytes of `b` from `i` to `j`. -/
def between (b : ByteArray) (i j : Nat) : List UInt8 := (b.extract i j).data.toList

theorem between_eq_take_drop (b : ByteArray) (i j : Nat) :
    between b i j = (b.data.toList.drop i).take (j - i) := by
  simp [between, ByteArray.data_extract]

@[simp]
theorem between_self (b : ByteArray) (i : Nat) : between b i i = [] := by
  simp [between_eq_take_drop]

theorem between_all (b : ByteArray) : between b 0 b.size = b.data.toList := by
  rw [between, ByteArray.extract_zero_size]

theorem length_between {b : ByteArray} {i j : Nat} (hj : j ≤ b.size) :
    (between b i j).length = j - i := by
  have hb : b.data.toList.length = b.size := rfl
  simp only [between_eq_take_drop, List.length_take, List.length_drop, hb]
  omega

theorem between_of_lt {b : ByteArray} {i j : Nat} (h : i < j) (hj : j ≤ b.size) :
    between b i j = b[i] :: between b (i + 1) j := by
  have hi : i < b.data.toList.length := Nat.lt_of_lt_of_le h hj
  have hn : j - i = (j - (i + 1)) + 1 := by omega
  rw [between_eq_take_drop, between_eq_take_drop, List.drop_eq_getElem_cons hi, hn,
    List.take_succ_cons]
  rfl

theorem between_append {b : ByteArray} {i j k : Nat} (hij : i ≤ j) (hjk : j ≤ k) :
    between b i j ++ between b j k = between b i k := by
  have hk : k - i = (j - i) + (k - j) := by omega
  have hj : i + (j - i) = j := by omega
  rw [between_eq_take_drop, between_eq_take_drop, between_eq_take_drop, hk, List.take_add,
    List.drop_drop, hj]

theorem between_eq_append {b : ByteArray} {i k : Nat} {l m : List UInt8} (hk : k ≤ b.size)
    (hik : i ≤ k) (h : between b i k = l ++ m) :
    i + l.length ≤ k ∧ between b i (i + l.length) = l ∧ between b (i + l.length) k = m := by
  have hlen : l.length + m.length = k - i := by
    rw [← List.length_append, ← h, length_between hk]
  have hle : i + l.length ≤ k := by omega
  have hsplit := between_append (b := b) (Nat.le_add_right i l.length) hle
  have hl : (between b i (i + l.length)).length = l.length := by
    rw [length_between (by omega)]
    omega
  rw [h] at hsplit
  obtain ⟨h₁, h₂⟩ := List.append_inj hsplit hl
  exact ⟨hle, h₁, h₂⟩

theorem between_eq_cons {b : ByteArray} {i k : Nat} {x : UInt8} {l : List UInt8} (hk : k ≤ b.size)
    (hik : i ≤ k) (h : between b i k = x :: l) :
    ∃ hi : i < k, b[i] = x ∧ between b (i + 1) k = l := by
  have hi : i < k := by
    refine Nat.lt_of_le_of_ne hik ?_
    rintro rfl
    simp at h
  rw [between_of_lt hi hk, List.cons.injEq] at h
  exact ⟨hi, h.1, h.2⟩

theorem getElem_mem_between {i j k : Nat} (hik : i ≤ k) (hkj : k < j) (hj : j ≤ b.size) :
    b[k] ∈ between b i j := by
  rw [← between_append hik (Nat.le_of_lt hkj), between_of_lt hkj hj]
  exact List.mem_append_right _ (List.mem_cons_self ..)

/-! ### Quoted strings -/

/-- Where a reader stands with respect to quoted strings. -/
inductive Quoting where
  | outside
  | inside (quote : UInt8)
  /-- In a string, right after a backslash. -/
  | escaped (quote : UInt8)
deriving DecidableEq, Repr

namespace Quoting

def next : Quoting → UInt8 → Quoting
  | outside, x => if Ascii.isQuote x then inside x else outside
  | inside q, x => if x = Ascii.backslash then escaped q else if x = q then outside else inside q
  | escaped q, _ => inside q

def after (s : Quoting) (l : List UInt8) : Quoting := l.foldl next s

@[simp]
theorem after_nil (s : Quoting) : s.after [] = s := rfl

@[simp]
theorem after_cons (s : Quoting) (x : UInt8) (l : List UInt8) :
    s.after (x :: l) = (s.next x).after l := rfl

@[simp]
theorem after_append (s : Quoting) (l m : List UInt8) : s.after (l ++ m) = (s.after l).after m := by
  simp [after]

theorem after_outside_of_forall {l : List UInt8} (h : ∀ x ∈ l, Ascii.isQuote x = false) :
    outside.after l = outside := by
  induction l with
  | nil => rfl
  | cons x l ih =>
    have hx : outside.next x = outside := by simp [next, h x (List.mem_cons_self ..)]
    rw [after_cons, hx]
    exact ih fun y hy => h y (List.mem_cons_of_mem _ hy)

end Quoting

/-! ### Parentheses outside strings -/

/-- Where a reader stands: in a string or not, and below how many open parentheses. -/
structure Nesting where
  quoting : Quoting
  depth : Nat
deriving DecidableEq, Repr

namespace Nesting

/-- Outside strings and outside all parentheses. -/
def top : Nesting := ⟨.outside, 0⟩

/-- One byte further; `none` at a closing parenthesis that closes nothing. -/
def next? (s : Nesting) (x : UInt8) : Option Nesting :=
  if s.quoting = .outside ∧ x = Ascii.openParen then some ⟨.outside, s.depth + 1⟩
  else if s.quoting = .outside ∧ x = Ascii.closeParen then
    if s.depth = 0 then none else some ⟨.outside, s.depth - 1⟩
  else some ⟨s.quoting.next x, s.depth⟩

def read? (s : Nesting) (l : List UInt8) : Option Nesting := l.foldlM next? s

/-- One byte further in a name part, which a comma outside all parentheses ends. -/
def nextPart? (s : Nesting) (x : UInt8) : Option Nesting :=
  if s = top ∧ x = Ascii.comma then none else s.next? x

def readPart? (s : Nesting) (l : List UInt8) : Option Nesting := l.foldlM nextPart? s

@[simp]
theorem read?_nil (s : Nesting) : s.read? [] = some s := rfl

@[simp]
theorem read?_cons (s : Nesting) (x : UInt8) (l : List UInt8) :
    s.read? (x :: l) = (s.next? x).bind (·.read? l) := rfl

@[simp]
theorem read?_append (s : Nesting) (l m : List UInt8) :
    s.read? (l ++ m) = (s.read? l).bind (·.read? m) := by
  simp only [read?, List.foldlM_append]
  rfl

@[simp]
theorem readPart?_nil (s : Nesting) : s.readPart? [] = some s := rfl

@[simp]
theorem readPart?_cons (s : Nesting) (x : UInt8) (l : List UInt8) :
    s.readPart? (x :: l) = (s.nextPart? x).bind (·.readPart? l) := rfl

@[simp]
theorem readPart?_append (s : Nesting) (l m : List UInt8) :
    s.readPart? (l ++ m) = (s.readPart? l).bind (·.readPart? m) := by
  simp only [readPart?, List.foldlM_append]
  rfl

/-! What one byte does. -/

theorem next?_eq_none_iff {s : Nesting} {x : UInt8} :
    s.next? x = none ↔ s = top ∧ x = Ascii.closeParen := by
  obtain ⟨q, d⟩ := s
  constructor
  · intro h
    unfold next? at h
    split at h
    · cases h
    · split at h
      · rename_i hc
        split at h
        · rename_i hd
          obtain ⟨rfl, rfl⟩ := hc
          exact ⟨by rw [top, Nesting.mk.injEq]; exact ⟨rfl, hd⟩, rfl⟩
        · cases h
      · cases h
  · rintro ⟨h, rfl⟩
    rw [h]
    simp [next?, top, Ascii.closeParen_ne_openParen]

theorem quoting_of_next? {s t : Nesting} {x : UInt8} (h : s.next? x = some t) :
    t.quoting = s.quoting.next x := by
  unfold next? at h
  split at h
  · rename_i hx
    cases h
    rw [hx.1, hx.2]
    rfl
  · split at h
    · rename_i hx
      split at h
      · cases h
      · cases h
        rw [hx.1, hx.2]
        rfl
    · cases h
      rfl

theorem next?_of_ne_outside {s : Quoting} (hs : s ≠ .outside) (d : Nat) (x : UInt8) :
    next? ⟨s, d⟩ x = some ⟨s.next x, d⟩ := by
  simp [next?, hs]

theorem next?_outside {d : Nat} {x : UInt8} (ho : x ≠ Ascii.openParen)
    (hc : x ≠ Ascii.closeParen) : next? ⟨.outside, d⟩ x = some ⟨Quoting.outside.next x, d⟩ := by
  simp [next?, ho, hc]

@[simp]
theorem next?_openParen (d : Nat) :
    next? ⟨.outside, d⟩ Ascii.openParen = some ⟨.outside, d + 1⟩ := by
  simp [next?]

@[simp]
theorem next?_closeParen_succ (d : Nat) :
    next? ⟨.outside, d + 1⟩ Ascii.closeParen = some ⟨.outside, d⟩ := by
  simp [next?, Ascii.closeParen_ne_openParen]

@[simp]
theorem nextPart?_openParen (d : Nat) :
    nextPart? ⟨.outside, d⟩ Ascii.openParen = some ⟨.outside, d + 1⟩ := by
  simp [nextPart?, Ascii.comma_ne_openParen.symm]

@[simp]
theorem nextPart?_closeParen_succ (d : Nat) :
    nextPart? ⟨.outside, d + 1⟩ Ascii.closeParen = some ⟨.outside, d⟩ := by
  simp [nextPart?, Ascii.comma_ne_closeParen.symm]

/-- A byte that is no mark, or a comma below an open parenthesis, leaves a reader outside strings
where it is. -/
theorem nextPart?_plain {d : Nat} {x : UInt8} (hq : Ascii.isQuote x = false)
    (ho : x ≠ Ascii.openParen) (hc : x ≠ Ascii.closeParen) (hm : x = Ascii.comma → d ≠ 0) :
    nextPart? ⟨.outside, d⟩ x = some ⟨.outside, d⟩ := by
  have htop : ¬(Nesting.mk .outside d = top ∧ x = Ascii.comma) := by
    rintro ⟨ht, hx⟩
    exact hm hx (congrArg depth ht)
  have hnext : Quoting.outside.next x = .outside := by simp [Quoting.next, hq]
  rw [nextPart?, if_neg htop, next?_outside ho hc, hnext]

theorem next?_add_depth {s t : Nesting} {x : UInt8} (h : s.next? x = some t) (k : Nat) :
    next? ⟨s.quoting, s.depth + k⟩ x = some ⟨t.quoting, t.depth + k⟩ := by
  unfold next? at h ⊢
  split at h
  · rename_i hx
    cases h
    rw [if_pos hx]
    simp only [Option.some.injEq, Nesting.mk.injEq, true_and]
    omega
  · rename_i hx
    rw [if_neg hx]
    split at h
    · rename_i hy
      split at h
      · cases h
      · rename_i hd
        cases h
        have hk : s.depth + k ≠ 0 := by omega
        rw [if_pos hy, if_neg hk]
        simp only [Option.some.injEq, Nesting.mk.injEq, true_and]
        omega
    · rename_i hy
      cases h
      rw [if_neg hy]

theorem next?_of_nextPart? {s t : Nesting} {x : UInt8} (h : s.nextPart? x = some t) :
    s.next? x = some t := by
  unfold nextPart? at h
  split at h
  · cases h
  · exact h

/-! What a text does. -/

theorem quoting_of_read? {s t : Nesting} {l : List UInt8} (h : s.read? l = some t) :
    t.quoting = s.quoting.after l := by
  induction l generalizing s with
  | nil =>
    cases h
    rfl
  | cons x l ih =>
    obtain ⟨u, hu, ht⟩ := Option.bind_eq_some_iff.mp h
    rw [ih ht, quoting_of_next? hu]
    rfl

/-- A text whose parentheses close closes its strings too. -/
theorem after_of_read? {l : List UInt8} (h : top.read? l = some .top) :
    Quoting.outside.after l = .outside :=
  (quoting_of_read? h).symm

theorem read?_add_depth {s t : Nesting} {l : List UInt8} (h : s.read? l = some t) (k : Nat) :
    read? ⟨s.quoting, s.depth + k⟩ l = some ⟨t.quoting, t.depth + k⟩ := by
  induction l generalizing s with
  | nil =>
    cases h
    rfl
  | cons x l ih =>
    obtain ⟨u, hu, ht⟩ := Option.bind_eq_some_iff.mp h
    rw [read?_cons, next?_add_depth hu k]
    exact ih ht

theorem read?_of_readPart? {s t : Nesting} {l : List UInt8} (h : s.readPart? l = some t) :
    s.read? l = some t := by
  induction l generalizing s with
  | nil => exact h
  | cons x l ih =>
    obtain ⟨u, hu, ht⟩ := Option.bind_eq_some_iff.mp h
    rw [read?_cons, next?_of_nextPart? hu]
    exact ih ht

theorem read?_of_forall {l : List UInt8} (d : Nat) (h : ∀ x ∈ l, Ascii.isQuote x = false ∧
    x ≠ Ascii.openParen ∧ x ≠ Ascii.closeParen) :
    read? ⟨.outside, d⟩ l = some ⟨.outside, d⟩ := by
  induction l with
  | nil => rfl
  | cons x l ih =>
    obtain ⟨hq, ho, hc⟩ := h x (List.mem_cons_self ..)
    have hnext : Quoting.outside.next x = .outside := by simp [Quoting.next, hq]
    rw [read?_cons, next?_outside ho hc, hnext]
    exact ih fun y hy => h y (List.mem_cons_of_mem _ hy)

/-- As long as a string does not end, reading it leaves the depth alone. -/
theorem readPart?_of_forall_ne_outside {s : Quoting} {l : List UInt8} (d : Nat)
    (h : ∀ n < l.length, s.after (l.take n) ≠ .outside) :
    readPart? ⟨s, d⟩ l = some ⟨s.after l, d⟩ := by
  induction l generalizing s with
  | nil => rfl
  | cons x l ih =>
    have hs : s ≠ .outside := h 0 (by simp)
    have hp : nextPart? ⟨s, d⟩ x = some ⟨s.next x, d⟩ := by
      have htop : ¬(Nesting.mk s d = top ∧ x = Ascii.comma) := by
        rintro ⟨ht, -⟩
        exact hs (congrArg quoting ht)
      rw [nextPart?, if_neg htop, next?_of_ne_outside hs]
    rw [readPart?_cons, hp]
    refine ih fun n hn => ?_
    exact h (n + 1) (by simp only [List.length_cons]; omega)

theorem exists_of_read?_eq_none {s : Nesting} {l : List UInt8} (h : s.read? l = none) :
    ∃ l₁ l₂, l = l₁ ++ Ascii.closeParen :: l₂ ∧ s.read? l₁ = some top := by
  induction l generalizing s with
  | nil => cases h
  | cons x l ih =>
    cases hx : s.next? x with
    | none =>
      obtain ⟨hs, rfl⟩ := next?_eq_none_iff.mp hx
      exact ⟨[], l, rfl, by rw [hs]; rfl⟩
    | some t =>
      rw [read?_cons, hx] at h
      obtain ⟨l₁, l₂, rfl, h₁⟩ := ih h
      exact ⟨x :: l₁, l₂, rfl, by rw [read?_cons, hx]; exact h₁⟩

/-- A text that a reader gets through is a name part, or a comma ends a name part in it. -/
theorem exists_of_read?_eq_some {s t : Nesting} {l : List UInt8} (h : s.read? l = some t) :
    s.readPart? l = some t ∨
      ∃ l₁ l₂, l = l₁ ++ Ascii.comma :: l₂ ∧ s.readPart? l₁ = some top := by
  induction l generalizing s with
  | nil => exact Or.inl h
  | cons x l ih =>
    by_cases hx : s = top ∧ x = Ascii.comma
    · obtain ⟨rfl, rfl⟩ := hx
      exact Or.inr ⟨[], l, rfl, rfl⟩
    · obtain ⟨u, hu, ht⟩ := Option.bind_eq_some_iff.mp h
      have hp : s.nextPart? x = some u := by rw [nextPart?, if_neg hx, hu]
      rcases ih ht with h₁ | ⟨l₁, l₂, rfl, h₁⟩
      · exact Or.inl (by rw [readPart?_cons, hp]; exact h₁)
      · exact Or.inr ⟨x :: l₁, l₂, rfl, by rw [readPart?_cons, hp]; exact h₁⟩

end Nesting
end CustomProps.Value
