import CustomProps.Proofs.Text.Utf8
import CustomProps.Proofs.Value.NamePart
/-!
# Text that stops no search

Quotes, parentheses and commas are all that the searches of a value stop at. A reader passes over
text without them.
-/
namespace CustomProps.Value

/-- Bytes that no search of a value stops at. -/
def Inert (l : List UInt8) : Prop :=
  ∀ x ∈ l, Ascii.isQuote x = false ∧ x ≠ Ascii.openParen ∧ x ≠ Ascii.closeParen ∧ x ≠ Ascii.comma

theorem Inert.append {l m : List UInt8} (hl : Inert l) (hm : Inert m) : Inert (l ++ m) := by
  intro x hx
  rcases List.mem_append.mp hx with hx | hx
  · exact hl x hx
  · exact hm x hx

theorem inert_of_blank {l : List UInt8} (h : Blank l) : Inert l :=
  fun x hx => Ascii.marks_of_isSpace x (h x hx)

theorem readPart?_inert {l : List UInt8} (h : Inert l) : Nesting.top.readPart? l = some .top := by
  induction l with
  | nil => rfl
  | cons x l ih =>
    obtain ⟨hq, ho, hc, hm⟩ := h x (List.mem_cons_self ..)
    have hx : Nesting.top.nextPart? x = some .top :=
      Nesting.nextPart?_plain hq ho hc fun hcomma => absurd hcomma hm
    rw [Nesting.readPart?_cons, hx]
    exact ih fun y hy => h y (List.mem_cons_of_mem _ hy)

/-! ### Characters -/

theorem ne_of_mem_utf8 {s : String} {d : Char} (h : d ∉ s.toList) {x y : UInt8}
    (hy : String.utf8EncodeChar d = [y]) (hlt : y < 0x80) (hx : x ∈ utf8 s) : x ≠ y := by
  rintro rfl
  rw [utf8_eq_flatMap] at hx
  obtain ⟨c, hc, hxc⟩ := List.mem_flatMap.mp hx
  rw [eq_of_mem_utf8EncodeChar hxc hlt hy] at hc
  exact h hc

/-- The characters that a search of a value stops at. -/
def marks : List Char := ['"', '\'', '(', ')', ',']

theorem inert_of_marks {s : String} (h : ∀ c ∈ s.toList, c ∉ marks) : Inert (utf8 s) := by
  intro x hx
  have hclear : ∀ d ∈ marks, ∀ y, String.utf8EncodeChar d = [y] → y < 0x80 → x ≠ y := by
    intro d hd y hy hlt
    exact ne_of_mem_utf8 (fun hmem => h d hmem hd) hy hlt hx
  refine ⟨?_, ?_, ?_, ?_⟩
  · have hdouble := hclear '"' (by decide) 0x22 (by decide) (by decide)
    have hsingle := hclear '\'' (by decide) 0x27 (by decide) (by decide)
    simp [Ascii.isQuote, hdouble, hsingle]
  · exact hclear '(' (by decide) 0x28 (by decide) (by decide)
  · exact hclear ')' (by decide) 0x29 (by decide) (by decide)
  · exact hclear ',' (by decide) 0x2c (by decide) (by decide)

end CustomProps.Value
