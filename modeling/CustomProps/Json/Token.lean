import CustomProps.Json.Basic
/-!
The tokens of a JSON text. Between tokens stand spaces, tabs, line feeds and carriage returns. A
string holds no bare control character; an escape that names half of a surrogate pair without the
other half is well formed, but the string then denotes no text.
-/
namespace CustomProps.Json

inductive Token where
  | openArray
  | closeArray
  | openObject
  | closeObject
  | comma
  | colon
  | null
  | bool (b : Bool)
  | number (n : Numeral)
  | string (text : Option String)
deriving DecidableEq, Repr, Inhabited

namespace Token

def isBlank (c : Char) : Bool := c == ' ' || c == '\t' || c == '\n' || c == '\r'

/-! ### Numbers -/

def digitValue (d : Char) : Nat := d.toNat - '0'.toNat

/-- The number that decimal digits denote. -/
def decimal (digits : List Char) : Nat := digits.foldl (fun n d => 10 * n + digitValue d) 0

/-- A sign, and what follows it; no sign counts as plus. -/
def lexSign : List Char → Int × List Char
  | '+' :: rest => (1, rest)
  | '-' :: rest => (-1, rest)
  | rest => (1, rest)

/-- At least one digit. -/
def lexDigits (cs : List Char) : Option (List Char × List Char) :=
  match cs.takeWhile Char.isDigit with
  | [] => none
  | digits => some (digits, cs.dropWhile Char.isDigit)

/-- `e` or `E`, a sign or none, digits; there may be no exponent. -/
def lexExponent (cs : List Char) : Option (Option Int × List Char) :=
  match cs with
  | c :: rest =>
    if c == 'e' || c == 'E' then
      (lexDigits (lexSign rest).2).map fun (digits, after) =>
        (some ((lexSign rest).1 * decimal digits), after)
    else some (none, cs)
  | [] => some (none, [])

/-- A point and digits; no digits if there is no point. -/
def lexFraction : List Char → Option (List Char × List Char)
  | '.' :: rest => lexDigits rest
  | cs => some ([], cs)

/-- A number without its sign: no digit follows a leading zero. -/
def lexUnsigned (negative : Bool) (cs : List Char) : Option (Numeral × List Char) :=
  match lexDigits cs with
  | none => none
  | some (whole, rest) =>
    if whole.head? == some '0' && 1 < whole.length then none
    else
      match lexFraction rest with
      | none => none
      | some (fraction, rest) =>
        (lexExponent rest).map fun (exponent, rest) =>
          (⟨negative, decimal whole, fraction.map digitValue, exponent⟩, rest)

def lexNumber : List Char → Option (Numeral × List Char)
  | '-' :: cs => lexUnsigned true cs
  | cs => lexUnsigned false cs

/-! ### Strings -/

def hexDigit? (c : Char) : Option Nat :=
  if c.isDigit then some (c.toNat - '0'.toNat)
  else if 'a' ≤ c && c ≤ 'f' then some (c.toNat - 'a'.toNat + 10)
  else if 'A' ≤ c && c ≤ 'F' then some (c.toNat - 'A'.toNat + 10)
  else none

/-- The number that four hexadecimal digits denote. -/
def hex4? (a b c d : Char) : Option Nat := do
  some (((← hexDigit? a) * 16 + (← hexDigit? b)) * 256 + ((← hexDigit? c) * 16 + (← hexDigit? d)))

def isHighSurrogate (n : Nat) : Bool := 0xd800 ≤ n && n < 0xdc00

def isLowSurrogate (n : Nat) : Bool := 0xdc00 ≤ n && n < 0xe000

/-- The character that a surrogate pair denotes. -/
def pair (high low : Nat) : Char :=
  Char.ofNat (0x10000 + (high - 0xd800) * 0x400 + (low - 0xdc00))

/-- The character that a backslash and `c` denote, four-digit escapes apart. -/
def shortEscape? : Char → Option Char
  | '"' => some '"'
  | '\\' => some '\\'
  | '/' => some '/'
  | 'b' => some '\x08'
  | 'f' => some '\x0c'
  | 'n' => some '\n'
  | 'r' => some '\r'
  | 't' => some '\t'
  | _ => none

/-- A piece of a string: a character, or half of a surrogate pair. -/
inductive Piece where
  | char (c : Char)
  | half (code : Nat)
deriving DecidableEq, Repr, Inhabited

/-- The piece that a four-digit escape denotes. -/
def Piece.ofCode (n : Nat) : Piece :=
  if isHighSurrogate n || isLowSurrogate n then .half n else .char (Char.ofNat n)

/-- The text that pieces denote: a high half followed by a low one is one character, and there is
no text if a half stands alone. -/
def Piece.text? : List Piece → Option (List Char)
  | [] => some []
  | .char c :: rest => (text? rest).map (c :: ·)
  | .half high :: .half low :: rest =>
    if isHighSurrogate high && isLowSurrogate low then (text? rest).map (pair high low :: ·)
    else none
  | .half _ :: _ => none

/-- The pieces of a string up to its closing quote, and what follows that. -/
def lexPieces (found : Array Piece) : List Char → Option (Array Piece × List Char)
  | [] => none
  | '"' :: rest => some (found, rest)
  | '\\' :: 'u' :: a :: b :: c :: d :: rest =>
    match hex4? a b c d with
    | some n => lexPieces (found.push (.ofCode n)) rest
    | none => none
  | '\\' :: c :: rest =>
    match shortEscape? c with
    | some c => lexPieces (found.push (.char c)) rest
    | none => none
  | c :: rest => if c.toNat < 0x20 || c == '\\' then none else lexPieces (found.push (.char c)) rest

theorem length_of_lexPieces {found all : Array Piece} {cs rest : List Char}
    (h : lexPieces found cs = some (all, rest)) : rest.length < cs.length := by
  fun_induction lexPieces found cs <;> simp_all <;> omega

/-! ### All tokens -/

/-- The first token of a text that begins with no blank. -/
def lexOne : List Char → Option (Token × List Char)
  | '[' :: rest => some (.openArray, rest)
  | ']' :: rest => some (.closeArray, rest)
  | '\x7b' :: rest => some (.openObject, rest)
  | '\x7d' :: rest => some (.closeObject, rest)
  | ',' :: rest => some (.comma, rest)
  | ':' :: rest => some (.colon, rest)
  | 'n' :: 'u' :: 'l' :: 'l' :: rest => some (.null, rest)
  | 't' :: 'r' :: 'u' :: 'e' :: rest => some (.bool true, rest)
  | 'f' :: 'a' :: 'l' :: 's' :: 'e' :: rest => some (.bool false, rest)
  | '"' :: rest => (lexPieces #[] rest).map fun (pieces, rest) =>
    (.string ((Piece.text? pieces.toList).map String.ofList), rest)
  | cs => (lexNumber cs).map fun (n, rest) => (.number n, rest)

/-! ### Every token is at least one character -/

theorem length_of_lexDigits {cs digits rest : List Char}
    (h : lexDigits cs = some (digits, rest)) : rest.length < cs.length := by
  unfold lexDigits at h
  split at h
  · cases h
  · rename_i hd
    cases h
    have := congrArg List.length (List.takeWhile_append_dropWhile (p := Char.isDigit) (l := cs))
    have : 0 < (cs.takeWhile Char.isDigit).length := List.length_pos_iff.mpr hd
    simp only [List.length_append] at *
    omega

theorem length_lexSign_le (cs : List Char) : (lexSign cs).2.length ≤ cs.length := by
  unfold lexSign
  split <;> simp

theorem length_of_lexExponent {cs rest : List Char} {e : Option Int}
    (h : lexExponent cs = some (e, rest)) : rest.length ≤ cs.length := by
  unfold lexExponent at h
  split at h
  · rename_i c tail
    split at h
    · simp only [Option.map_eq_some_iff, Prod.exists, Prod.mk.injEq] at h
      obtain ⟨digits, after, hd, -, rfl⟩ := h
      have := length_of_lexDigits hd
      have := length_lexSign_le tail
      simp
      omega
    · cases h
      exact Nat.le_refl _
  · cases h
    exact Nat.le_refl _

theorem length_of_lexFraction {cs digits rest : List Char}
    (h : lexFraction cs = some (digits, rest)) : rest.length ≤ cs.length := by
  unfold lexFraction at h
  split at h
  · have := length_of_lexDigits h
    simp
    omega
  · cases h
    exact Nat.le_refl _

theorem length_of_lexUnsigned {negative : Bool} {cs rest : List Char} {n : Numeral}
    (h : lexUnsigned negative cs = some (n, rest)) : rest.length < cs.length := by
  unfold lexUnsigned at h
  split at h
  · cases h
  · rename_i hw
    split at h
    · cases h
    · split at h
      · cases h
      · rename_i hf
        simp only [Option.map_eq_some_iff, Prod.exists, Prod.mk.injEq] at h
        obtain ⟨e, after, he, -, rfl⟩ := h
        have := length_of_lexDigits hw
        have := length_of_lexFraction hf
        have := length_of_lexExponent he
        omega

theorem length_of_lexNumber {cs rest : List Char} {n : Numeral}
    (h : lexNumber cs = some (n, rest)) : rest.length < cs.length := by
  unfold lexNumber at h
  split at h
  · have := length_of_lexUnsigned h
    simp
    omega
  · exact length_of_lexUnsigned h

theorem length_of_lexOne {cs rest : List Char} {t : Token}
    (h : lexOne cs = some (t, rest)) : rest.length < cs.length := by
  unfold lexOne at h
  split at h
  case h_10 =>
    simp only [Option.map_eq_some_iff, Prod.exists, Prod.mk.injEq] at h
    obtain ⟨pieces, after, hp, -, rfl⟩ := h
    have := length_of_lexPieces hp
    simp
    omega
  case h_11 =>
    simp only [Option.map_eq_some_iff, Prod.exists, Prod.mk.injEq] at h
    obtain ⟨n, after, hn, -, rfl⟩ := h
    exact length_of_lexNumber hn
  all_goals
    cases h
    simp only [List.length_cons]
    omega

/-- The tokens of a text after the ones in `found`. -/
def lexInto (found : Array Token) (cs : List Char) : Option (Array Token) :=
  match cs with
  | [] => some found
  | c :: rest =>
    if isBlank c then lexInto found rest
    else
      match _h : lexOne (c :: rest) with
      | some (t, after) => lexInto (found.push t) after
      | none => none
termination_by cs.length
decreasing_by
  · simp
  · exact length_of_lexOne _h

/-- The tokens of a text, if all of it consists of tokens and blanks. -/
def ofText? (source : String) : Option (List Token) :=
  (lexInto #[] source.toList).map Array.toList

end Token
end CustomProps.Json
