import CustomProps.Decimal
/-!
The scalars of TOML 1.0 and the blanks around them: keys, strings of four kinds, integers, floats,
dates and times. A reader takes a scalar off the front of a text and returns what is left; `none`
means that no scalar of the kind stands there.
-/
namespace CustomProps.Toml

/-- A scalar value. Floats, dates and times are kept as they are written. -/
inductive Scalar where
  | string (text : String)
  | integer (n : Int)
  | float (text : String)
  | boolean (b : Bool)
  | moment (text : String)
deriving DecidableEq, Repr, Inhabited

/-! ### Blanks, line ends and comments -/

def isBlank (c : Char) : Bool := c == ' ' || c == '\t'

def skipBlanks (cs : List Char) : List Char := cs.dropWhile isBlank

/-- A line end: a line feed, with or without a carriage return before it. -/
def lineEnd? : List Char → Option (List Char)
  | '\n' :: rest => some rest
  | '\r' :: '\n' :: rest => some rest
  | _ => none

/-- A character that may stand in a comment: any but the controls; a tab may. -/
def isCommentChar (c : Char) : Bool := c == '\t' || (0x20 ≤ c.toNat && c.toNat != 0x7f)

/-- The text after the comment it begins with, if it begins with one. -/
def skipComment : List Char → List Char
  | '#' :: rest => rest.dropWhile isCommentChar
  | cs => cs

/-- Blanks and a comment up to the end of the line or of the text. -/
def lineRest? (cs : List Char) : Option (List Char) :=
  match skipComment (skipBlanks cs) with
  | [] => some []
  | cs => lineEnd? cs

/-- Blanks, comments and line ends. A comment ends with its line; a carriage return stands only
before a line feed. -/
def skipSpace (inComment : Bool) : List Char → List Char
  | [] => []
  | '\r' :: '\n' :: rest => skipSpace false rest
  | c :: rest =>
    if c == '\n' then skipSpace false rest
    else if inComment then
      if isCommentChar c then skipSpace true rest else c :: rest
    else if isBlank c then skipSpace false rest
    else if c == '#' then skipSpace true rest
    else c :: rest

/-! ### Strings -/

def hexValue? (c : Char) : Option Nat :=
  if c.isDigit then some (c.toNat - '0'.toNat)
  else if 'a' ≤ c && c ≤ 'f' then some (c.toNat - 'a'.toNat + 10)
  else if 'A' ≤ c && c ≤ 'F' then some (c.toNat - 'A'.toNat + 10)
  else none

/-- The character whose code the given hexadecimal digits write. -/
def charOfHex? (digits : List Char) : Option Char := do
  let n ← digits.foldlM (fun n d => (hexValue? d).map (16 * n + ·)) 0
  if n.isValidChar then some (Char.ofNat n) else none

/-- What a backslash and the text after it denote. -/
def escape? : List Char → Option (Char × List Char)
  | 'b' :: rest => some ('\x08', rest)
  | 't' :: rest => some ('\t', rest)
  | 'n' :: rest => some ('\n', rest)
  | 'f' :: rest => some ('\x0c', rest)
  | 'r' :: rest => some ('\r', rest)
  | '"' :: rest => some ('"', rest)
  | '\\' :: rest => some ('\\', rest)
  | 'u' :: a :: b :: c :: d :: rest => (charOfHex? [a, b, c, d]).map (·, rest)
  | 'U' :: a :: b :: c :: d :: e :: f :: g :: h :: rest =>
    (charOfHex? [a, b, c, d, e, f, g, h]).map (·, rest)
  | _ => none

/-- A character that may stand in a string: any but the controls; a tab may. -/
def isStringChar (c : Char) : Bool := isCommentChar c

/-- The rest of a one-line string with escapes, `found` being its characters so far, last first. -/
def basicString (found : List Char) (cs : List Char) : Option (String × List Char) :=
  match cs with
  | '"' :: rest => some (String.ofList found.reverse, rest)
  | '\\' :: rest =>
    match escape? rest with
    | some (c, after) =>
      if after.length ≤ rest.length then basicString (c :: found) after else none
    | none => none
  | c :: rest => if isStringChar c then basicString (c :: found) rest else none
  | [] => none
termination_by cs.length

/-- The rest of a one-line string without escapes. -/
def literalString (found : List Char) : List Char → Option (String × List Char)
  | '\'' :: rest => some (String.ofList found.reverse, rest)
  | c :: rest => if isStringChar c then literalString (c :: found) rest else none
  | [] => none

/-- The end of a string of several lines at three `mark`s: one or two more belong to the string. -/
def closing? (mark : Char) : List Char → Option (List Char × List Char)
  | a :: b :: c :: d :: e :: rest =>
    if a == mark && b == mark && c == mark then
      if d == mark then
        if e == mark then some ([mark, mark], rest) else some ([mark], e :: rest)
      else some ([], d :: e :: rest)
    else none
  | [a, b, c, d] =>
    if a == mark && b == mark && c == mark then
      if d == mark then some ([mark], []) else some ([], [d])
    else none
  | [a, b, c] => if a == mark && b == mark && c == mark then some ([], []) else none
  | _ => none

/-- Blanks and line ends. -/
def skipBlankLines : List Char → List Char
  | '\r' :: '\n' :: rest => skipBlankLines rest
  | c :: rest => if c == '\n' || isBlank c then skipBlankLines rest else c :: rest
  | [] => []

/-- The text after a backslash that ends a line, and after all blanks and line ends there. -/
def continued? (cs : List Char) : Option (List Char) :=
  (lineEnd? (skipBlanks cs)).map skipBlankLines

/-- The rest of a string of several lines with escapes. Line ends count as line feeds. -/
def basicLines (found : List Char) (cs : List Char) : Option (String × List Char) :=
  match closing? '"' cs with
  | some (marks, rest) => some (String.ofList (found.reverse ++ marks), rest)
  | none =>
    match cs with
    | [] => none
    | '\r' :: '\n' :: rest => basicLines ('\n' :: found) rest
    | '\\' :: rest =>
      match continued? rest with
      | some after => if after.length ≤ rest.length then basicLines found after else none
      | none =>
        match escape? rest with
        | some (c, after) =>
          if after.length ≤ rest.length then basicLines (c :: found) after else none
        | none => none
    | c :: rest => if isStringChar c || c == '\n' then basicLines (c :: found) rest else none
termination_by cs.length

/-- The rest of a string of several lines without escapes. Line ends count as line feeds. -/
def literalLines (found : List Char) (cs : List Char) : Option (String × List Char) :=
  match closing? '\'' cs with
  | some (marks, rest) => some (String.ofList (found.reverse ++ marks), rest)
  | none =>
    match cs with
    | [] => none
    | '\r' :: '\n' :: rest => literalLines ('\n' :: found) rest
    | c :: rest => if isStringChar c || c == '\n' then literalLines (c :: found) rest else none
termination_by cs.length

/-- A line end right after the opening of a string of several lines does not count. -/
def dropLineEnd (cs : List Char) : List Char := (lineEnd? cs).getD cs

/-- A string of any kind. -/
def string? : List Char → Option (String × List Char)
  | '"' :: '"' :: '"' :: rest => basicLines [] (dropLineEnd rest)
  | '"' :: rest => basicString [] rest
  | '\'' :: '\'' :: '\'' :: rest => literalLines [] (dropLineEnd rest)
  | '\'' :: rest => literalString [] rest
  | _ => none

/-! ### Keys -/

/-- A character that may stand in a key without quotes. -/
def isBareKeyChar (c : Char) : Bool := c.isAlphanum || c == '-' || c == '_'

/-- One part of a key: bare, or a string on one line. -/
def keyPart? (cs : List Char) : Option (String × List Char) :=
  match cs with
  | '"' :: rest => basicString [] rest
  | '\'' :: rest => literalString [] rest
  | _ =>
    let name := cs.takeWhile isBareKeyChar
    if name.isEmpty then none else some (String.ofList name, cs.dropWhile isBareKeyChar)

/-- A bound on the nesting of arrays and inline tables, and on the parts of a key. -/
def nestingBound : Nat := 80

/-- The parts of a key after the ones in `found`, at most `left` of them, points between them and
blanks around them. -/
def keyParts (found : List String) (cs : List Char) :
    (left : Nat) → Option (List String × List Char)
  | 0 => none
  | left + 1 =>
    match keyPart? (skipBlanks cs) with
    | none => none
    | some (part, rest) =>
      match skipBlanks rest with
      | '.' :: after => keyParts (part :: found) after left
      | after => some ((part :: found).reverse, after)

/-- A key. -/
def key? (cs : List Char) : Option (List String × List Char) := keyParts [] cs (nestingBound - 1)

/-! ### Numbers -/

/-- Digits in groups that single underscores part, after the ones in `found`. -/
def digitGroups (isDigit : Char → Bool) (found : List Char) :
    List Char → Option (List Char × List Char)
  | '_' :: c :: rest =>
    if found.isEmpty || !isDigit c then none else digitGroups isDigit (c :: found) rest
  | '_' :: [] => none
  | c :: rest =>
    if isDigit c then digitGroups isDigit (c :: found) rest
    else if found.isEmpty then none
    else some (found.reverse, c :: rest)
  | [] => if found.isEmpty then none else some (found.reverse, [])

/-- The number that digits write in a base up to 16. -/
def numberInBase (base : Nat) (digits : List Char) : Nat :=
  digits.foldl (fun n d => base * n + (hexValue? d).getD 0) 0

/-- The integers that may be written. -/
def inRange (n : Int) : Bool := -0x8000000000000000 ≤ n && n < 0x8000000000000000

def basedInteger? (base : Nat) (isDigit : Char → Bool) (cs : List Char) :
    Option (Scalar × List Char) := do
  let (digits, rest) ← digitGroups isDigit [] cs
  let n : Int := numberInBase base digits
  if inRange n then some (.integer n, rest) else none

/-- A sign, if there is one. -/
def sign : List Char → List Char × List Char
  | '+' :: rest => (['+'], rest)
  | '-' :: rest => (['-'], rest)
  | cs => ([], cs)

/-- The fraction after a point. -/
def fraction? : List Char → Option (List Char × List Char)
  | '.' :: rest => digitGroups Char.isDigit [] rest
  | cs => some ([], cs)

/-- The exponent after an `e`: its sign and digits; `none` in the result if there is no exponent. -/
def exponent? (cs : List Char) : Option (Option Int × List Char) :=
  match cs with
  | c :: rest =>
    if c == 'e' || c == 'E' then do
      let (s, rest) := sign rest
      let (digits, rest) ← digitGroups Char.isDigit [] rest
      let n : Int := numberInBase 10 digits
      some (some (if s == ['-'] then -n else n), rest)
    else some (none, cs)
  | [] => some (none, [])

/-- A decimal integer or a float. No digit follows a leading zero; a float that is too large for
double precision is refused unless it is negative. -/
def decimal? (cs : List Char) : Option (Scalar × List Char) := do
  let (s, body) := sign cs
  let (whole, rest) ← digitGroups Char.isDigit [] body
  if whole.head? == some '0' && 1 < whole.length then none
  let (fraction, rest) ← fraction? rest
  let (exponent, rest) ← exponent? rest
  if fraction.isEmpty && exponent.isNone then
    let n : Int := numberInBase 10 whole
    let n := if s == ['-'] then -n else n
    if inRange n then some (.integer n, rest) else none
  else
    let e := exponent.getD 0
    let digits := numberInBase 10 (whole ++ fraction)
    if s == ['-'] || Decimal.isFinite digits (e - fraction.length) then
      some (.float (String.ofList (cs.take (cs.length - rest.length))), rest)
    else none

/-- A number of any kind. -/
def number? (cs : List Char) : Option (Scalar × List Char) :=
  match cs with
  | '0' :: 'x' :: rest => basedInteger? 16 (fun c => (hexValue? c).isSome) rest
  | '0' :: 'o' :: rest => basedInteger? 8 (fun c => '0' ≤ c && c ≤ '7') rest
  | '0' :: 'b' :: rest => basedInteger? 2 (fun c => c == '0' || c == '1') rest
  | _ =>
    match sign cs with
    | (s, 'i' :: 'n' :: 'f' :: rest) => some (.float (String.ofList (s ++ "inf".toList)), rest)
    | (s, 'n' :: 'a' :: 'n' :: rest) => some (.float (String.ofList (s ++ "nan".toList)), rest)
    | _ => decimal? cs

/-! ### Dates and times -/

/-- A number of exactly `count` digits. -/
def fixedDigits? (count : Nat) (cs : List Char) : Option (Nat × List Char) :=
  let digits := cs.take count
  if digits.length == count && digits.all Char.isDigit then
    some (numberInBase 10 digits, cs.drop count)
  else none

def isLeapYear (y : Nat) : Bool := y % 4 == 0 && (y % 100 != 0 || y % 400 == 0)

def daysInMonth (y m : Nat) : Nat :=
  if m == 2 then (if isLeapYear y then 29 else 28)
  else if m == 4 || m == 6 || m == 9 || m == 11 then 30
  else 31

/-- The text after `mark`. -/
def after? (mark : Char) : List Char → Option (List Char)
  | c :: rest => if c == mark then some rest else none
  | [] => none

/-- The text after a date. -/
def date? (cs : List Char) : Option (List Char) := do
  let (y, cs) ← fixedDigits? 4 cs
  let (m, cs) ← fixedDigits? 2 (← after? '-' cs)
  let (d, cs) ← fixedDigits? 2 (← after? '-' cs)
  if 1 ≤ m && m ≤ 12 && 1 ≤ d && d ≤ daysInMonth y m then some cs else none

/-- The text after an hour and a minute. -/
def hourMinute? (cs : List Char) : Option (List Char) := do
  let (h, cs) ← fixedDigits? 2 cs
  let (m, cs) ← fixedDigits? 2 (← after? ':' cs)
  if h ≤ 23 && m ≤ 59 then some cs else none

/-- The text after a time of day, a leap second and a fraction of a second included. -/
def time? (cs : List Char) : Option (List Char) := do
  let cs ← hourMinute? cs
  let (s, cs) ← fixedDigits? 2 (← after? ':' cs)
  if 60 < s then none
  match cs with
  | '.' :: c :: rest => if c.isDigit then some (rest.dropWhile Char.isDigit) else none
  | '.' :: [] => none
  | _ => some cs

/-- The text after an offset from universal time, if there is one. -/
def offset? : List Char → Option (List Char)
  | '+' :: rest | '-' :: rest => hourMinute? rest
  | 'Z' :: rest | 'z' :: rest => some rest
  | cs => some cs

/-- A digit, a digit, and a colon begin a time. -/
def beginsTime : List Char → Bool
  | a :: b :: ':' :: _ => a.isDigit && b.isDigit
  | _ => false

/-- Four digits and a hyphen begin a date. -/
def beginsDate : List Char → Bool
  | a :: b :: c :: d :: '-' :: _ => a.isDigit && b.isDigit && c.isDigit && d.isDigit
  | _ => false

/-- The text after a date, with or without a time and an offset. -/
def dateTime? (cs : List Char) : Option (List Char) := do
  let rest ← date? cs
  match rest with
  | c :: time =>
    if (c == 'T' || c == 't' || c == ' ') && beginsTime time then offset? (← time? time)
    else some rest
  | [] => some []

/-- A date, a time or both. -/
def moment? (cs : List Char) : Option (Scalar × List Char) := do
  let rest ← if beginsDate cs then dateTime? cs else time? cs
  some (.moment (String.ofList (cs.take (cs.length - rest.length))), rest)

/-! ### Scalars -/

/-- A scalar of any kind. -/
def scalar? (cs : List Char) : Option (Scalar × List Char) :=
  match cs with
  | '"' :: _ | '\'' :: _ => (string? cs).map fun (s, rest) => (.string s, rest)
  | 't' :: 'r' :: 'u' :: 'e' :: rest => some (.boolean true, rest)
  | 'f' :: 'a' :: 'l' :: 's' :: 'e' :: rest => some (.boolean false, rest)
  | _ => if beginsDate cs || beginsTime cs then moment? cs else number? cs

end CustomProps.Toml
