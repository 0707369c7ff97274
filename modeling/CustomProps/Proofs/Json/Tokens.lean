import CustomProps.Json.Printer
import CustomProps.Json.Token
/-!
# Printed tokens are read back

A number or a string is read from what is printed for it, whatever comes after it, as long as that
does not go on with the number. The characters of a string are escaped one by one, and each is read
back by itself.
-/
namespace CustomProps

/-- Every digit of the fraction is one. -/
def Numeral.Sound (n : Numeral) : Prop := ∀ d ∈ n.fraction, d < 10

namespace Json

namespace Token

/-! ### Numbers -/

/-- What may follow a number: a text that does not go on with it. -/
def Delimits (rest : List Char) : Prop :=
  ∀ c ∈ rest.head?, c.isDigit = false ∧ c ≠ '.' ∧ c ≠ 'e' ∧ c ≠ 'E'

theorem delimits_cons {c : Char} (rest : List Char)
    (h : c.isDigit = false ∧ c ≠ '.' ∧ c ≠ 'e' ∧ c ≠ 'E') : Delimits (c :: rest) := by
  intro c' hc'
  cases hc'
  exact h

theorem lexDigits_append {digits rest : List Char} (hne : digits ≠ [])
    (hdigits : ∀ c ∈ digits, c.isDigit) (hrest : ∀ c ∈ rest.head?, c.isDigit = false) :
    lexDigits (digits ++ rest) = some (digits, rest) := by
  have htake : rest.takeWhile Char.isDigit = [] ∧ rest.dropWhile Char.isDigit = rest := by
    cases rest with
    | nil => simp
    | cons c rest => simp [hrest c rfl]
  unfold lexDigits
  rw [List.takeWhile_append_of_pos hdigits, List.dropWhile_append_of_pos hdigits, htake.1, htake.2,
    List.append_nil]
  cases digits with
  | nil => contradiction
  | cons c digits => rfl

theorem lexDigits_toDigits (n : Nat) {rest : List Char} (hrest : ∀ c ∈ rest.head?, c.isDigit = false) :
    lexDigits (Nat.toDigits 10 n ++ rest) = some (Nat.toDigits 10 n, rest) :=
  lexDigits_append Nat.toDigits_ne_nil
    (fun _ hc => Nat.isDigit_of_mem_toDigits (by decide) (by decide) hc) hrest

theorem decimal_toDigits (n : Nat) : decimal (Nat.toDigits 10 n) = n :=
  Nat.ofDigitChars_ten_toDigits

theorem head?_toDigits_append (n : Nat) (rest : List Char) :
    (Nat.toDigits 10 n ++ rest).head? = (Nat.toDigits 10 n).head? := by
  cases hdigits : Nat.toDigits 10 n with
  | nil => exact absurd hdigits Nat.toDigits_ne_nil
  | cons c digits => rfl

theorem head?_toDigits_ne_zero {n : Nat} (h : 0 < n) : (Nat.toDigits 10 n).head? ≠ some '0' := by
  induction n using Nat.strongRecOn with
  | ind n ih =>
    rw [Nat.toDigits_eq_if (by decide)]
    split
    · simp
      omega
    · rw [head?_toDigits_append]
      exact ih (n / 10) (by omega) (by omega)

theorem lexSign_toDigits (n : Nat) (rest : List Char) :
    lexSign (Nat.toDigits 10 n ++ rest) = (1, Nat.toDigits 10 n ++ rest) := by
  have hdigit : ∀ c ∈ (Nat.toDigits 10 n ++ rest).head?, c.isDigit := by
    intro c hc
    rw [head?_toDigits_append] at hc
    exact Nat.isDigit_of_mem_toDigits (by decide) (by decide) (List.mem_of_mem_head? hc)
  unfold lexSign
  split
  · rename_i hplus
    rw [hplus] at hdigit
    cases hdigit '+' rfl
  · rename_i hminus
    rw [hminus] at hdigit
    cases hdigit '-' rfl
  · rfl

def exponentChars : Option Int → List Char
  | none => []
  | some (.ofNat e) => 'e' :: Nat.toDigits 10 e
  | some (.negSucc e) => 'e' :: '-' :: Nat.toDigits 10 (e + 1)

theorem lexExponent_exponentChars (e : Option Int) {rest : List Char} (hrest : Delimits rest) :
    lexExponent (exponentChars e ++ rest) = some (e, rest) := by
  have hdigit : ∀ c ∈ rest.head?, c.isDigit = false := fun c hc => (hrest c hc).1
  match e with
  | none =>
    cases rest with
    | nil => rfl
    | cons c rest =>
      have hc := hrest c rfl
      simp [exponentChars, lexExponent, hc.2.2]
  | some (.ofNat e) =>
    simp [exponentChars, lexExponent, lexSign_toDigits, lexDigits_toDigits e hdigit,
      decimal_toDigits]
  | some (.negSucc e) =>
    simp [exponentChars, lexExponent, lexSign, lexDigits_toDigits (e + 1) hdigit,
      decimal_toDigits, Int.negSucc_eq]

def fractionChars (fraction : List Nat) : List Char :=
  if fraction.isEmpty then [] else '.' :: fraction.map Nat.digitChar

theorem delimits_exponentChars (e : Option Int) {rest : List Char} (hrest : Delimits rest) :
    ∀ c ∈ (exponentChars e ++ rest).head?, c.isDigit = false ∧ c ≠ '.' := by
  intro c hc
  match e with
  | none => exact ⟨(hrest c hc).1, (hrest c hc).2.1⟩
  | some (.ofNat e) =>
    cases hc
    decide
  | some (.negSucc e) =>
    cases hc
    decide

theorem lexFraction_fractionChars {fraction : List Nat} (h : ∀ d ∈ fraction, d < 10)
    {rest : List Char} (hrest : ∀ c ∈ rest.head?, c.isDigit = false ∧ c ≠ '.') :
    lexFraction (fractionChars fraction ++ rest) = some (fraction.map Nat.digitChar, rest) := by
  cases fraction with
  | nil =>
    show lexFraction rest = some ([], rest)
    unfold lexFraction
    split
    · exact absurd rfl (hrest '.' rfl).2
    · rfl
  | cons d fraction =>
    refine lexDigits_append (List.cons_ne_nil _ _) ?_ fun c hc => (hrest c hc).1
    intro c hc
    obtain ⟨d', hd', rfl⟩ := List.mem_map.mp hc
    simp [h d' hd']

theorem map_digitValue {fraction : List Nat} (h : ∀ d ∈ fraction, d < 10) :
    (fraction.map Nat.digitChar).map digitValue = fraction := by
  rw [List.map_map]
  calc fraction.map (digitValue ∘ Nat.digitChar) = fraction.map id :=
        List.map_congr_left fun d hd => Nat.toNat_digitChar_sub_48_of_lt_ten (h d hd)
    _ = fraction := List.map_id _

theorem numeralChars_eq (n : Numeral) : numeralChars n =
    (if n.negative then ['-'] else []) ++ (Nat.toDigits 10 n.whole ++
      (fractionChars n.fraction ++ exponentChars n.exponent)) := by
  simp only [numeralChars, fractionChars, List.append_assoc]
  rcases n.exponent with _ | _ | _ <;> rfl

theorem lexUnsigned_append (negative : Bool) {n : Numeral} (h : n.Sound) {rest : List Char}
    (hrest : Delimits rest) :
    lexUnsigned negative (Nat.toDigits 10 n.whole ++ (fractionChars n.fraction ++
        (exponentChars n.exponent ++ rest))) =
      some ({ n with negative := negative }, rest) := by
  have hexponent := delimits_exponentChars n.exponent hrest
  have hfraction : ∀ c ∈ (fractionChars n.fraction ++ (exponentChars n.exponent ++ rest)).head?,
      c.isDigit = false := by
    intro c hc
    cases hdigits : n.fraction with
    | nil =>
      rw [hdigits] at hc
      exact (hexponent c hc).1
    | cons d fraction =>
      rw [hdigits] at hc
      cases hc
      rfl
  have hzero : ¬((Nat.toDigits 10 n.whole).head? == some '0' &&
      decide (1 < (Nat.toDigits 10 n.whole).length)) = true := by
    by_cases hn : n.whole = 0
    · rw [hn]
      decide
    · simp [head?_toDigits_ne_zero (Nat.pos_of_ne_zero hn)]
  unfold lexUnsigned
  rw [lexDigits_toDigits n.whole hfraction]
  dsimp only
  rw [if_neg (by simpa using hzero), lexFraction_fractionChars h hexponent]
  dsimp only
  rw [lexExponent_exponentChars n.exponent hrest, decimal_toDigits, map_digitValue h]
  rfl

theorem lexNumber_append {n : Numeral} (h : n.Sound) {rest : List Char} (hrest : Delimits rest) :
    lexNumber (numeralChars n ++ rest) = some (n, rest) := by
  have hunsigned (negative : Bool) := lexUnsigned_append negative h hrest
  rw [numeralChars_eq, List.append_assoc, List.append_assoc, List.append_assoc]
  obtain ⟨negative, whole, fraction, exponent⟩ := n
  cases negative with
  | true => exact hunsigned true
  | false =>
    show lexNumber (Nat.toDigits 10 whole ++ _) = _
    unfold lexNumber
    split
    · rename_i cs hminus
      have hhead := head?_toDigits_append whole (fractionChars fraction ++ (exponentChars exponent ++ rest))
      rw [hminus] at hhead
      have := Nat.isDigit_of_mem_toDigits (by decide) (by decide) (List.mem_of_mem_head? hhead.symm)
      cases this
    · exact hunsigned false

/-! ### Strings -/

theorem hex4?_hexDigit : ∀ n < 0x20,
    hex4? '0' '0' (hexDigit (n / 16)) (hexDigit (n % 16)) = some n := by decide

theorem lexPieces_escapeChar (found : Array Piece) (c : Char) (rest : List Char) :
    lexPieces found (escapeChar c ++ rest) = lexPieces (found.push (.char c)) rest := by
  unfold escapeChar
  split
  case h_8 =>
    split
    · rename_i hlow
      have hcode : Piece.ofCode c.toNat = .char c := by
        simp [Piece.ofCode, isHighSurrogate, isLowSurrogate]
        omega
      simp [lexPieces, hex4?_hexDigit c.toNat hlow, hcode]
    · rename_i hquote hbackslash _ _ _ _ _ hlow
      have hplain : ¬(decide (c.toNat < 0x20) || c == '\\') = true := by
        simpa [hlow] using hbackslash
      rw [List.singleton_append, lexPieces, if_neg hplain]
      · exact hquote
      · exact fun _ _ _ _ _ h => absurd h hbackslash
      · exact fun _ _ h => absurd h hbackslash
  all_goals simp [lexPieces, shortEscape?]

theorem text?_map_char (cs : List Char) : Piece.text? (cs.map .char) = some cs := by
  induction cs with
  | nil => rfl
  | cons c cs ih => simp [Piece.text?, ih]

theorem lexPieces_flatMap (found : Array Piece) (cs rest : List Char) :
    lexPieces found (cs.flatMap escapeChar ++ '"' :: rest) =
      some (found ++ (cs.map Piece.char).toArray, rest) := by
  induction cs generalizing found with
  | nil => simp [lexPieces]
  | cons c cs ih =>
    rw [List.flatMap_cons, List.append_assoc, lexPieces_escapeChar, ih]
    simp

theorem lexOne_quote (cs : List Char) : lexOne ('"' :: cs) = (lexPieces #[] cs).map
    fun (pieces, rest) => (.string ((Piece.text? pieces.toList).map String.ofList), rest) := by
  rw [lexOne]

theorem lexOne_quoteText (text : Option String) (rest : List Char) :
    lexOne (quoteText text ++ rest) = some (.string text, rest) := by
  cases text with
  | none =>
    have hchars : quoteText none = ['"', '\\', 'u', 'd', '8', '0', '0', '"'] := by decide
    have hcode : hex4? 'd' '8' '0' '0' = some 0xd800 := by decide +kernel
    have hhalf : Piece.ofCode 0xd800 = .half 0xd800 := by decide +kernel
    have hpieces : lexPieces #[] ('\\' :: 'u' :: 'd' :: '8' :: '0' :: '0' :: '"' :: rest) =
        some (#[.half 0xd800], rest) := by
      rw [lexPieces, hcode]
      dsimp only
      rw [hhalf, lexPieces]
      rfl
    rw [hchars]
    show lexOne ('"' :: '\\' :: 'u' :: 'd' :: '8' :: '0' :: '0' :: '"' :: rest) = _
    rw [lexOne_quote, hpieces, Option.map_some]
    simp only [Piece.text?]
    rfl
  | some s =>
    have hchars : quoteText (some s) ++ rest = '"' :: (s.toList.flatMap escapeChar ++ '"' :: rest) := by
      show '"' :: (s.toList.flatMap escapeChar ++ ['"']) ++ rest = _
      rw [List.cons_append, List.append_assoc, List.singleton_append]
    rw [hchars, lexOne_quote, lexPieces_flatMap]
    simp [text?_map_char]

/-! ### Texts -/

theorem lexOne_numeralChars {n : Numeral} (h : n.Sound) {rest : List Char} (hrest : Delimits rest) :
    lexOne (numeralChars n ++ rest) = some (.number n, rest) ∧
      ∀ c ∈ (numeralChars n ++ rest).head?, isBlank c = false := by
  have hhead : ∀ c ∈ (numeralChars n ++ rest).head?, c = '-' ∨ c.isDigit := by
    intro c hc
    rw [numeralChars_eq, List.append_assoc, List.append_assoc] at hc
    cases hsign : n.negative with
    | true =>
      rw [hsign] at hc
      cases hc
      exact Or.inl rfl
    | false =>
      rw [hsign, if_neg Bool.false_ne_true, List.nil_append, head?_toDigits_append] at hc
      exact Or.inr (Nat.isDigit_of_mem_toDigits (by decide) (by decide) (List.mem_of_mem_head? hc))
  have hread := lexNumber_append h hrest
  generalize numeralChars n ++ rest = cs at hhead hread
  constructor
  · unfold lexOne
    split
    case h_11 => rw [hread, Option.map_some]
    all_goals
      rcases hhead _ rfl with h | h
      · cases h
      · cases h
  · intro c hc
    rcases hhead c hc with rfl | hdigit
    · rfl
    · simp only [isBlank, Bool.or_eq_false_iff, beq_eq_false_iff_ne]
      refine ⟨⟨⟨?_, ?_⟩, ?_⟩, ?_⟩
      all_goals
        rintro rfl
        cases hdigit

/-- The text consists of the tokens and blanks. -/
def Reads (cs : List Char) (tokens : List Token) : Prop :=
  ∀ found, lexInto found cs = some (found ++ tokens.toArray)

namespace Reads

variable {cs : List Char} {tokens : List Token}

theorem nil : Reads [] [] := by
  intro found
  simp [lexInto]

theorem blank {c : Char} (hc : isBlank c = true) (h : Reads cs tokens) :
    Reads (c :: cs) tokens := by
  intro found
  rw [lexInto, if_pos hc]
  exact h found

theorem token {c : Char} {front : List Char} {t : Token} (hc : isBlank c = false)
    (ht : lexOne (c :: front) = some (t, cs)) (h : Reads cs tokens) :
    Reads (c :: front) (t :: tokens) := by
  intro found
  rw [lexInto, if_neg (by simp [hc])]
  split
  · rename_i t' after hone
    rw [ht] at hone
    cases hone
    rw [h]
    simp
  · rename_i hnone
    rw [ht] at hnone
    cases hnone

theorem string (text : Option String) (h : Reads cs tokens) :
    Reads (quoteText text ++ cs) (.string text :: tokens) := by
  have hread := lexOne_quoteText text cs
  cases text with
  | none => exact token rfl hread h
  | some s => exact token rfl hread h

theorem number {n : Numeral} (hn : n.Sound) (hcs : Delimits cs) (h : Reads cs tokens) :
    Reads (numeralChars n ++ cs) (.number n :: tokens) := by
  obtain ⟨hread, hblank⟩ := lexOne_numeralChars hn hcs
  cases hfront : numeralChars n ++ cs with
  | nil =>
    rw [hfront] at hread
    cases hread
  | cons c front =>
    rw [hfront] at hread hblank
    exact token (hblank c rfl) hread h

theorem newLine (level : Nat) (h : Reads cs tokens) : Reads (newLine level ++ cs) tokens := by
  refine blank rfl ?_
  induction 2 * level with
  | zero => exact h
  | succ n ih => exact blank rfl ih

theorem ofText?_eq {source : String} (h : Reads source.toList tokens) :
    ofText? source = some tokens := by
  rw [ofText?, h]
  simp

end Reads

end Token
end Json
end CustomProps
