import CustomProps.Unicode.Latest
/-!
Texts in quotes, as diagnostics show them. Quotes, backslashes and the commonest controls have short
escapes. What has no sign of its own, and what attaches to the sign before it, is shown by its code
point in hexadecimal; all else stands for itself.
-/
namespace CustomProps.Quoted

/-- The character has a sign of its own that is not attached to another, or is the blank. -/
def isPrintable (c : Char) : Bool :=
  let k := Unicode.Latest.category c.toNat
  c == ' ' ||
    !(k.isOther || k.isSeparator || Unicode.Property.defaultIgnorable.contains c.toNat ||
      Unicode.Latest.isExtendingMark c.toNat)

/-- A code point in lower-case hexadecimal between braces. -/
def codeEscape (c : Char) : List Char :=
  ['\\', 'u', '\x7b'] ++ Nat.toDigits 16 c.toNat ++ ['\x7d']

def escapeChar (c : Char) : List Char :=
  match c with
  | '\x00' => ['\\', '0']
  | '\t' => ['\\', 't']
  | '\n' => ['\\', 'n']
  | '\r' => ['\\', 'r']
  | '"' => ['\\', '"']
  | '\\' => ['\\', '\\']
  | c => if isPrintable c then [c] else codeEscape c

/-- A text in quotes. -/
def quote (s : String) : String :=
  String.ofList ('"' :: (s.toList.flatMap escapeChar ++ ['"']))

end CustomProps.Quoted
