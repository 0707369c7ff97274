import CustomProps.Text.Ascii
/-!
# Facts about single bytes

The classes of bytes are decided by looking at all 256 of them; what is used of them elsewhere is
stated here.
-/
namespace CustomProps.Ascii

/-- A property of all bytes that holds of every number below 256. -/
theorem forall_byte {P : UInt8 → Prop} (h : ∀ n < 256, P (UInt8.ofNat n)) (x : UInt8) : P x := by
  have hx := h x.toNat x.toNat_lt
  rwa [UInt8.ofNat_toNat] at hx

theorem toLower_eq_openParen_iff (x : UInt8) : toLower x = 0x28 ↔ x = openParen := by
  revert x
  refine forall_byte ?_
  decide +kernel

theorem ne_of_isQuote (x : UInt8) : isQuote x = true → x ≠ openParen ∧ x ≠ closeParen ∧
    x ≠ comma := by
  revert x
  refine forall_byte ?_
  decide +kernel

theorem closeParen_ne_openParen : closeParen ≠ openParen := by decide

theorem comma_ne_openParen : comma ≠ openParen := by decide

theorem comma_ne_closeParen : comma ≠ closeParen := by decide

theorem marks_of_toLower (x : UInt8) :
    toLower x = 0x76 ∨ toLower x = 0x61 ∨ toLower x = 0x72 →
      isQuote x = false ∧ x ≠ openParen ∧ x ≠ closeParen := by
  revert x
  refine forall_byte ?_
  decide +kernel

theorem lt_of_toLower (x : UInt8) : toLower x = 0x76 → x < 0x80 := by
  revert x
  refine forall_byte ?_
  decide +kernel

theorem lt_of_isSpace (x : UInt8) : isSpace x = true → x < 0x80 := by
  revert x
  refine forall_byte ?_
  decide +kernel

theorem marks_of_isSpace (x : UInt8) : isSpace x = true →
    isQuote x = false ∧ x ≠ openParen ∧ x ≠ closeParen ∧ x ≠ comma := by
  revert x
  refine forall_byte ?_
  decide +kernel

end CustomProps.Ascii
