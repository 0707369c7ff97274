/-!
Texts without what is meant for a terminal. Control sequences begin with an escape and run to the
character that ends their kind; they and other control characters leave no trace, line breaks, tabs
and form feeds apart. A sequence that does not end takes the rest of the text with it.
-/
namespace CustomProps.Terminal

/-- What kind of sequence is being read. -/
inductive Mode where
  /-- None: the text itself. -/
  | text
  /-- An escape came. -/
  | escape
  /-- An escape and marks after it, which a final character ends. -/
  | escapeMarks
  /-- A control sequence: parameters and marks, which a final character ends. -/
  | control
  /-- The head of a device string, before its first mark or parameter. -/
  | deviceHead
  | deviceParameters
  | deviceMarks
  /-- A device string or another string that only a terminator ends. -/
  | string
  /-- A command to the system, which a bell ends. -/
  | command
deriving DecidableEq, Repr, Inhabited

/-- Control characters that are kept in a text. -/
def isLayout (c : Char) : Bool := c == '\t' || c == '\n' || c == '\x0c' || c == '\r'

/-- The marks that stand between the head of a sequence and its final character. -/
def isMark (c : Char) : Bool := ' ' ≤ c && c ≤ '/'

def isParameter (c : Char) : Bool := '0' ≤ c && c ≤ '?'

/-- Parameters of a private kind. They may only come first. -/
def isPrivate (c : Char) : Bool := '<' ≤ c && c ≤ '?'

def isFinal (c : Char) : Bool := '@' ≤ c && c ≤ '~'

/-- The byte 0x9c ends strings, also as one of the bytes of a longer character. -/
def endsString (c : Char) : Bool := (String.utf8EncodeChar c).contains 0x9c

/-- The mode after a character that is no control character. -/
def next (m : Mode) (c : Char) : Mode :=
  match m with
  | .text => .text
  | .escape =>
    if isMark c then .escapeMarks
    else if c == '[' then .control
    else if c == ']' then .command
    else if c == 'P' then .deviceHead
    else if c == 'X' || c == '^' || c == '_' then .string
    else if '0' ≤ c && c ≤ '~' then .text
    else .escape
  | .escapeMarks => if '0' ≤ c && c ≤ '~' then .text else .escapeMarks
  | .control => if isFinal c then .text else .control
  | .deviceHead =>
    if isMark c then .deviceMarks
    else if isParameter c then .deviceParameters
    else if isFinal c then .string
    else .deviceHead
  | .deviceParameters =>
    if isMark c then .deviceMarks
    else if isPrivate c || isFinal c then .string
    else .deviceParameters
  | .deviceMarks => if isParameter c || isFinal c then .string else .deviceMarks
  | .string => if endsString c then .text else .string
  | .command => .command

/-- Layout takes effect inside these sequences, which then are over. -/
def allowsLayout : Mode → Bool
  | .text | .escape | .escapeMarks | .control => true
  | _ => false

/-- The mode after a character, and whether the character is kept. -/
def step (m : Mode) (c : Char) : Mode × Bool :=
  if c == '\x1b' then (.escape, false)
  else if c == '\x18' || c == '\x1a' then (.text, false)
  else if c < ' ' || c == '\x7f' then
    if isLayout c && allowsLayout m then (.text, true)
    else if c == '\x07' && m == .command then (.text, false)
    else (m, false)
  else (next m c, m == .text)

/-- The characters that are kept. -/
def keep (m : Mode) : List Char → List Char
  | [] => []
  | c :: rest =>
    let (m, isKept) := step m c
    if isKept then c :: keep m rest else keep m rest

def plain (s : String) : String := String.ofList (keep .text s.toList)

end CustomProps.Terminal
