/-!
Classes of bytes that the surface syntax of values and property names is made of. Every byte of a
character beyond ASCII is at least 0x80, so a class of ASCII bytes never holds part of a longer
character.
-/
namespace CustomProps.Ascii

/-- Space, tab, line feed, form feed, carriage return. -/
def isSpace (b : UInt8) : Bool :=
  b == 0x20 || b == 0x09 || b == 0x0a || b == 0x0c || b == 0x0d

def isDigit (b : UInt8) : Bool := 0x30 ≤ b && b ≤ 0x39

def isUpper (b : UInt8) : Bool := 0x41 ≤ b && b ≤ 0x5a

def isLower (b : UInt8) : Bool := 0x61 ≤ b && b ≤ 0x7a

/-- The lower-case form of an ASCII letter; any other byte is left as it is. -/
def toLower (b : UInt8) : UInt8 := if isUpper b then b + 0x20 else b

/-- Letters, digits, `-`, `_`, and every byte of a character beyond ASCII. -/
def isIdent (b : UInt8) : Bool :=
  isDigit b || isUpper b || isLower b || b == 0x2d || b == 0x5f || 0x80 ≤ b

def dash : UInt8 := 0x2d
def comma : UInt8 := 0x2c
def openParen : UInt8 := 0x28
def closeParen : UInt8 := 0x29
def backslash : UInt8 := 0x5c

/-- The two marks that open and close a string. -/
def isQuote (b : UInt8) : Bool := b == 0x22 || b == 0x27

end CustomProps.Ascii
