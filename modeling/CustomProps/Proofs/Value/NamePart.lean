import CustomProps.Proofs.Value.Sites
import CustomProps.Value.Scan
/-!
# The name part of a call

What stands between `var(` and the first top-level comma, or the closing parenthesis, is a name if
it reads `--` and at least one more byte, blanks around it aside. Any text either names something,
and then in one way, or it does not.
-/
namespace CustomProps.Value

/-- White space only. -/
def Blank (l : List UInt8) : Prop := ∀ x ∈ l, Ascii.isSpace x = true

/-- Not empty and without white space at the end. -/
def EndsInk (l : List UInt8) : Prop := ∃ m x, l = m ++ [x] ∧ Ascii.isSpace x = false

/-- The two dashes in front of a name. -/
def dashes : List UInt8 := [Ascii.dash, Ascii.dash]

/-- The text of a name part, parted where its name begins and ends. -/
inductive NamePart where
  | named (lead name trail : List UInt8)
  | nameless (text : List UInt8)
deriving DecidableEq, Repr

namespace NamePart

def bytes : NamePart → List UInt8
  | named lead name trail => lead ++ (dashes ++ (name ++ trail))
  | nameless text => text

/-- Where the name is if the part begins at `o`. -/
def span? (o : Nat) : NamePart → Option Span
  | named lead name _ => some ⟨o + lead.length + 2, o + lead.length + 2 + name.length⟩
  | nameless _ => none

/-- The part is split as the search for a name splits it. -/
def Split : NamePart → Prop
  | named lead name trail => Blank lead ∧ EndsInk name ∧ Blank trail
  | nameless text => ∀ lead name trail, Blank lead → EndsInk name → Blank trail →
      text ≠ lead ++ (dashes ++ (name ++ trail))

/-- A name part as a call has it: split, and a reader of name parts gets through it. -/
structure Sound (p : NamePart) : Prop where
  split : p.Split
  closed : Nesting.top.readPart? p.bytes = some .top

theorem exists_split (l : List UInt8) : ∃ p : NamePart, p.Split ∧ p.bytes = l := by
  by_cases h : ∃ lead name trail, Blank lead ∧ EndsInk name ∧ Blank trail ∧
      l = lead ++ (dashes ++ (name ++ trail))
  · obtain ⟨lead, name, trail, h₁, h₂, h₃, rfl⟩ := h
    exact ⟨named lead name trail, ⟨h₁, h₂, h₃⟩, rfl⟩
  · refine ⟨nameless l, ?_, rfl⟩
    intro lead name trail h₁ h₂ h₃ hl
    exact h ⟨lead, name, trail, h₁, h₂, h₃, hl⟩

theorem exists_of_readPart? {l : List UInt8} (h : Nesting.top.readPart? l = some .top) :
    ∃ p : NamePart, p.Sound ∧ p.bytes = l := by
  obtain ⟨p, hp, rfl⟩ := exists_split l
  exact ⟨p, ⟨hp, h⟩, rfl⟩

end NamePart

/-! ### The search for a name -/

section Search

variable {b : ByteArray}

theorem blank_trimEnd {low i : Nat} (h : i ≤ b.size) :
    Blank (between b (trimEnd b low i h) i) := by
  induction i with
  | zero => simp [trimEnd, Blank]
  | succ i ih =>
    have hle : trimEnd b low i (by omega) ≤ i := trimEnd_le _
    unfold trimEnd
    split
    · rename_i hx
      intro x hmem
      rw [← between_append hle (Nat.le_succ i), List.mem_append] at hmem
      rcases hmem with hmem | hmem
      · exact ih (by omega) x hmem
      · rw [between_of_lt (Nat.lt_succ_self i) h, between_self, List.mem_singleton] at hmem
        rw [hmem]
        exact hx.2
    · simp [Blank]

theorem isSpace_trimEnd (low : Nat) {i : Nat} (h : i ≤ b.size) (hlow : low < trimEnd b low i h) :
    ∃ hk : trimEnd b low i h - 1 < b.size, Ascii.isSpace b[trimEnd b low i h - 1] = false := by
  induction i with
  | zero =>
    simp [trimEnd] at hlow
  | succ i ih =>
    unfold trimEnd at hlow ⊢
    split at hlow
    · rename_i hx
      simp only [if_pos hx]
      exact ih (by omega) hlow
    · rename_i hx
      simp only [if_neg hx]
      refine ⟨h, ?_⟩
      have hli : low ≤ i := by omega
      simpa [hli] using hx

theorem trimEnd_eq {low i j : Nat} (h : i ≤ b.size) (hji : j ≤ i) (hlow : low < j)
    (hblank : Blank (between b j i)) (hink : Ascii.isSpace b[j - 1] = false) :
    trimEnd b low i h = j := by
  induction i with
  | zero => omega
  | succ i ih =>
    unfold trimEnd
    by_cases hj : j = i + 1
    · subst hj
      have hx : ¬(low ≤ i ∧ Ascii.isSpace b[i] = true) := by
        rintro ⟨-, hx⟩
        simp [hx] at hink
      rw [if_neg hx]
    · have hx : low ≤ i ∧ Ascii.isSpace b[i] = true := by
        exact ⟨by omega, hblank _ (getElem_mem_between (by omega) (Nat.lt_succ_self i) h)⟩
      rw [if_pos hx]
      refine ih (by omega) (by omega) (fun x hmem => hblank x ?_) hink
      rw [← between_append (j := i) (by omega) (Nat.le_succ i)]
      exact List.mem_append_left _ hmem

variable {stop : Nat} (hs : stop ≤ b.size)

theorem le_trimStart (i : Nat) : i ≤ trimStart b hs i := by
  fun_induction trimStart b hs i <;> omega

theorem trimStart_le {i : Nat} (hi : i ≤ stop) : trimStart b hs i ≤ stop := by
  fun_induction trimStart b hs i with
  | case1 i h _ ih => exact ih h
  | case2 => exact hi
  | case3 => exact hi

theorem blank_trimStart (i : Nat) : Blank (between b i (trimStart b hs i)) := by
  fun_induction trimStart b hs i with
  | case1 i h hx ih =>
    have hle := le_trimStart hs (i + 1)
    have hst := trimStart_le hs (i := i + 1) h
    rw [between_of_lt (by omega) (by omega)]
    intro x hmem
    rcases List.mem_cons.mp hmem with rfl | hmem
    · exact hx
    · exact ih x hmem
  | case2 => simp [Blank]
  | case3 => simp [Blank]

theorem trimStart_eq {i j : Nat} (hij : i ≤ j) (hj : j < stop) (hb : j < b.size)
    (hblank : Blank (between b i j)) (hink : Ascii.isSpace b[j] = false) : trimStart b hs i = j := by
  fun_induction trimStart b hs i with
  | case1 i h hx ih =>
    have hne : i ≠ j := by
      rintro rfl
      rw [hink] at hx
      cases hx
    refine ih (by omega) ?_
    intro x hmem
    refine hblank x ?_
    rw [between_of_lt (by omega) (by omega)]
    exact List.mem_cons_of_mem _ hmem
  | case2 i h hx =>
    refine Nat.le_antisymm hij (Nat.le_of_not_lt fun hlt => hx ?_)
    exact hblank _ (getElem_mem_between (Nat.le_refl i) hlt (by omega))
  | case3 => omega

variable {hs}

theorem nameSpan?_named {low : Nat} {lead name trail : List UInt8} (hlow : low ≤ stop)
    (h : between b low stop = lead ++ (dashes ++ (name ++ trail))) (hlead : Blank lead)
    (hname : EndsInk name) (htrail : Blank trail) :
    nameSpan? b low stop hs =
      some ⟨low + lead.length + 2, low + lead.length + 2 + name.length⟩ := by
  have hdash : Ascii.isSpace Ascii.dash = false := by decide
  obtain ⟨m, x, rfl, hink⟩ := hname
  have hlen : dashes.length = 2 := rfl
  obtain ⟨hle₁, h₁, hrest₁⟩ := between_eq_append hs hlow h
  obtain ⟨hle₂, h₂, hrest₂⟩ := between_eq_append hs hle₁ hrest₁
  obtain ⟨hle₃, h₃, h₄⟩ := between_eq_append hs hle₂ hrest₂
  simp only [List.length_append, List.length_cons, List.length_nil, hlen] at hle₂ hle₃ h₂ h₃ h₄ ⊢
  obtain ⟨hlt₁, hd₁, hd⟩ := between_eq_cons (by omega) (by omega) h₂
  obtain ⟨hlt₂, hd₂, -⟩ := between_eq_cons (by omega) (by omega) hd
  obtain ⟨hle₅, -, h₅⟩ := between_eq_append (by omega) (by omega) h₃
  obtain ⟨hlt₃, hx, -⟩ := between_eq_cons (by omega) hle₅ h₅
  have hfirst : trimStart b hs low = low + lead.length := by
    refine trimStart_eq hs (by omega) (by omega) (by omega) (by rw [h₁]; exact hlead) ?_
    rw [hd₁]
    exact hdash
  have hlast : trimEnd b (low + lead.length) stop hs = low + lead.length + 2 + (m.length + 1) := by
    refine trimEnd_eq hs (by omega) (by omega) (by rw [h₄]; exact htrail) ?_
    simp only [← hx] at hink
    exact hink
  unfold nameSpan?
  simp only [hfirst, hlast]
  rw [dif_pos (by omega), if_pos ⟨hd₁, hd₂⟩]

theorem exists_of_nameSpan? {low : Nat} {r : Span}
    (h : nameSpan? b low stop hs = some r) :
    ∃ lead name trail, Blank lead ∧ EndsInk name ∧ Blank trail ∧
      between b low stop = lead ++ (dashes ++ (name ++ trail)) := by
  have hfirst := le_trimStart hs low
  have hlast : trimEnd b (trimStart b hs low) stop hs ≤ stop := trimEnd_le hs
  unfold nameSpan? at h
  simp only at h
  split at h
  · rename_i hf
    split at h
    · rename_i hd
      obtain ⟨hk, hink⟩ := isSpace_trimEnd (trimStart b hs low) hs (by omega)
      refine ⟨between b low (trimStart b hs low),
        between b (trimStart b hs low + 2) (trimEnd b (trimStart b hs low) stop hs),
        between b (trimEnd b (trimStart b hs low) stop hs) stop,
        blank_trimStart hs low, ?_, blank_trimEnd hs, ?_⟩
      · refine ⟨between b (trimStart b hs low + 2) (trimEnd b (trimStart b hs low) stop hs - 1),
          b[trimEnd b (trimStart b hs low) stop hs - 1], ?_, hink⟩
        have hsucc : trimEnd b (trimStart b hs low) stop hs - 1 + 1 =
            trimEnd b (trimStart b hs low) stop hs := by omega
        rw [← between_append (j := trimEnd b (trimStart b hs low) stop hs - 1) (by omega) (by omega),
          between_of_lt (i := trimEnd b (trimStart b hs low) stop hs - 1) (by omega) (by omega),
          hsucc, between_self]
      · have hdashes : dashes = between b (trimStart b hs low) (trimStart b hs low + 2) := by
          rw [between_of_lt (by omega) (by omega), between_of_lt (by omega) (by omega),
            between_self, hd.1, hd.2]
          rfl
        rw [hdashes, between_append (by omega) (by omega), between_append (by omega) (by omega),
          between_append (by omega) (by omega)]
    · cases h
  · cases h

/-- The name found in a name part is the one the part is split at. -/
theorem nameSpan?_eq {low : Nat} {p : NamePart} (hlow : low ≤ stop)
    (h : between b low stop = p.bytes) (hp : p.Split) :
    nameSpan? b low stop hs = p.span? low := by
  cases p with
  | named lead name trail =>
    obtain ⟨h₁, h₂, h₃⟩ := hp
    exact nameSpan?_named hlow h h₁ h₂ h₃
  | nameless text =>
    refine Option.eq_none_iff_forall_ne_some.mpr fun r hr => ?_
    obtain ⟨lead, name, trail, h₁, h₂, h₃, heq⟩ := exists_of_nameSpan? hr
    exact hp lead name trail h₁ h₂ h₃ (h.symm.trans heq)

end Search

end CustomProps.Value
