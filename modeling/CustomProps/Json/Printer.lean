import CustomProps.Json.Basic
/-!
Two written forms of a value: the compact one has no blanks; the laid-out one puts every item and
member on a line of its own, indented by two blanks per open container, and a blank after the
colon. In both, strings escape quotes, backslashes and control characters, and nothing else.
-/
namespace CustomProps.Json

/-- The lower-case hexadecimal digit of a number below 16. -/
def hexDigit (n : Nat) : Char := Nat.digitChar n

def escapeChar (c : Char) : List Char :=
  match c with
  | '"' => ['\\', '"']
  | '\\' => ['\\', '\\']
  | '\x08' => ['\\', 'b']
  | '\x0c' => ['\\', 'f']
  | '\n' => ['\\', 'n']
  | '\r' => ['\\', 'r']
  | '\t' => ['\\', 't']
  | c =>
    if c.toNat < 0x20 then ['\\', 'u', '0', '0', hexDigit (c.toNat / 16), hexDigit (c.toNat % 16)]
    else [c]

def quote (s : String) : List Char := '"' :: (s.toList.flatMap escapeChar ++ ['"'])

/-- A literal that denotes no text is written as a lone surrogate. -/
def quoteText : Option String → List Char
  | some s => quote s
  | none => "\"\\ud800\"".toList

/-- The fraction and the exponent are written if there are any. -/
def numeralChars (n : Numeral) : List Char :=
  (if n.negative then ['-'] else []) ++ Nat.toDigits 10 n.whole ++
    (if n.fraction.isEmpty then [] else '.' :: n.fraction.map Nat.digitChar) ++
    match n.exponent with
    | none => []
    | some (.ofNat e) => 'e' :: Nat.toDigits 10 e
    | some (.negSucc e) => 'e' :: '-' :: Nat.toDigits 10 (e + 1)

def boolChars (b : Bool) : List Char := if b then "true".toList else "false".toList

mutual
def compactChars : Json → List Char
  | .null => "null".toList
  | .bool b => boolChars b
  | .number n => numeralChars n
  | .string text => quoteText text
  | .array items => '[' :: compactItems items
  | .object members => '\x7b' :: compactMembers members

/-- The rest of an array after its opening bracket. -/
def compactItems : List Json → List Char
  | [] => [']']
  | [v] => compactChars v ++ [']']
  | v :: rest => compactChars v ++ ',' :: compactItems rest

/-- The rest of an object after its opening brace. -/
def compactMembers : List (Option String × Json) → List Char
  | [] => ['\x7d']
  | [(k, v)] => quoteText k ++ ':' :: (compactChars v ++ ['\x7d'])
  | (k, v) :: rest => quoteText k ++ ':' :: (compactChars v ++ ',' :: compactMembers rest)
end

/-- A line break and the indentation for `level` open containers. -/
def newLine (level : Nat) : List Char := '\n' :: List.replicate (2 * level) ' '

mutual
def prettyChars (level : Nat) : Json → List Char
  | .null => "null".toList
  | .bool b => boolChars b
  | .number n => numeralChars n
  | .string text => quoteText text
  | .array [] => ['[', ']']
  | .array items => '[' :: (newLine (level + 1) ++ prettyItems level items)
  | .object [] => ['\x7b', '\x7d']
  | .object members => '\x7b' :: (newLine (level + 1) ++ prettyMembers level members)

/-- The items of an array that has `level` containers around it, and its closing bracket. -/
def prettyItems (level : Nat) : List Json → List Char
  | [] => [']']
  | [v] => prettyChars (level + 1) v ++ (newLine level ++ [']'])
  | v :: rest =>
    prettyChars (level + 1) v ++ ',' :: (newLine (level + 1) ++ prettyItems level rest)

/-- The members of an object that has `level` containers around it, and its closing brace. -/
def prettyMembers (level : Nat) : List (Option String × Json) → List Char
  | [] => ['\x7d']
  | [(k, v)] =>
    quoteText k ++ ':' :: ' ' :: (prettyChars (level + 1) v ++ (newLine level ++ ['\x7d']))
  | (k, v) :: rest =>
    quoteText k ++ ':' :: ' ' :: (prettyChars (level + 1) v ++
      ',' :: (newLine (level + 1) ++ prettyMembers level rest))
end

/-- The text of a value without any blanks. -/
def compact (v : Json) : String := String.ofList (compactChars v)

/-- The text of a value laid out over lines, without a final line break. -/
def pretty (v : Json) : String := String.ofList (prettyChars 0 v)

end CustomProps.Json
