import CustomProps.Unicode.Lookup
/-!
Patterns as they are written: the tree of a pattern keeps what its text says, before flags decide
what that means. `Fault` lists everything that can be wrong with a pattern.
-/
namespace CustomProps.Pattern

/-- Why a text is no pattern, or a pattern has no meaning. -/
inductive Fault where
  | groupUnclosed
  | groupUnopened
  | groupNameInvalid
  | groupNameEmpty
  | groupNameDuplicate
  | groupNameUnclosed
  | flagUnknown
  | flagDuplicate
  | flagDangling
  | flagUnclosed
  | lookAround
  | backReference
  | repetitionMissing
  | repetitionCount
  | repetitionRange
  | repetitionUnclosed
  | escapeUnknown
  | escapeUnclosed
  | escapeHex
  | boundaryUnknown
  | classUnclosed
  | classItem
  | classRange
  | nesting
  | propertyUnknown
  | propertyForbidden
  | notText
  | tooLarge
deriving DecidableEq, Repr, Inhabited

namespace Fault

def message : Fault → String
  | groupUnclosed => "unclosed group"
  | groupUnopened => "unopened group"
  | groupNameInvalid => "invalid capture group character"
  | groupNameEmpty => "empty capture group name"
  | groupNameDuplicate => "duplicate capture group name"
  | groupNameUnclosed => "unclosed capture group name"
  | flagUnknown => "unrecognized flag"
  | flagDuplicate => "duplicate flag"
  | flagDangling => "dangling flag negation operator"
  | flagUnclosed => "expected flag but got end of pattern"
  | lookAround => "look-around is not supported"
  | backReference => "backreferences are not supported"
  | repetitionMissing => "repetition operator missing expression"
  | repetitionCount => "invalid decimal in repetition"
  | repetitionRange => "invalid repetition count range, the start must be <= the end"
  | repetitionUnclosed => "unclosed counted repetition"
  | escapeUnknown => "unrecognized escape sequence"
  | escapeUnclosed => "incomplete escape sequence, reached end of pattern"
  | escapeHex => "hexadecimal literal is not a valid character"
  | boundaryUnknown => "unrecognized special word boundary assertion"
  | classUnclosed => "unclosed character class"
  | classItem => "invalid escape sequence in character class"
  | classRange => "invalid character class range"
  | nesting => "exceeded the maximum nesting depth"
  | propertyUnknown => "Unicode property not found"
  | propertyForbidden => "Unicode not allowed here"
  | notText => "pattern can match invalid UTF-8"
  | tooLarge => "compiled pattern exceeds size limit"

end Fault

/-- The switches of a pattern. -/
inductive Flag where
  | ignoreCase
  | multiLine
  | dotAll
  | swapGreed
  | unicode
  | crlf
  | verbose
deriving DecidableEq, Repr, Inhabited

/-- Switches turned on, then switches turned off. -/
structure FlagChange where
  on : List Flag
  off : List Flag
deriving DecidableEq, Repr, Inhabited

/-- What the change does to one switch; `none` if it leaves it alone. -/
def FlagChange.of? (change : FlagChange) (f : Flag) : Option Bool :=
  if change.on.contains f then some true
  else if change.off.contains f then some false
  else none

/-- How a place lies to the words around it. -/
inductive WordEdge where
  | boundary
  | noBoundary
  | start
  | finish
  | startHalf
  | finishHalf
deriving DecidableEq, Repr, Inhabited

/-- A place in the text, of width zero. -/
inductive Assertion where
  | lineStart
  | lineEnd
  | textStart
  | textEnd
  | word (edge : WordEdge)
deriving DecidableEq, Repr, Inhabited

/-- A character that stands for itself; `isByte` if it was written as a byte, in two hexadecimal
digits. -/
structure Literal where
  char : Char
  isByte : Bool
deriving DecidableEq, Repr, Inhabited

/-- Classes that have a one-letter escape. -/
inductive Shorthand where
  | digit
  | space
  | word
deriving DecidableEq, Repr, Inhabited

/-- Named classes of ASCII characters. -/
inductive Posix where
  | alnum
  | alpha
  | ascii
  | blank
  | cntrl
  | digit
  | graph
  | lower
  | print
  | punct
  | space
  | upper
  | word
  | xdigit
deriving DecidableEq, Repr, Inhabited

def Posix.ofName? : String → Option Posix
  | "alnum" => some .alnum
  | "alpha" => some .alpha
  | "ascii" => some .ascii
  | "blank" => some .blank
  | "cntrl" => some .cntrl
  | "digit" => some .digit
  | "graph" => some .graph
  | "lower" => some .lower
  | "print" => some .print
  | "punct" => some .punct
  | "space" => some .space
  | "upper" => some .upper
  | "word" => some .word
  | "xdigit" => some .xdigit
  | _ => none

/-- Operators between classes. -/
inductive SetOp where
  | intersection
  | difference
  | symmetricDifference
deriving DecidableEq, Repr, Inhabited

/-- What stands between the brackets of a class. -/
inductive ClassTree where
  | literal (l : Literal)
  | range (first last : Literal)
  | shorthand (kind : Shorthand) (negated : Bool)
  | posix (kind : Posix) (negated : Bool)
  | property (query : Unicode.Query) (negated : Bool)
  | bracket (negated : Bool) (inner : ClassTree)
  | union (items : List ClassTree)
  | op (kind : SetOp) (left right : ClassTree)
deriving Repr, Inhabited

/-- A pattern as it is written. -/
inductive Tree where
  | empty
  | flags (change : FlagChange)
  | literal (l : Literal)
  | dot
  | assertion (a : Assertion)
  | shorthand (kind : Shorthand) (negated : Bool)
  | property (query : Unicode.Query) (negated : Bool)
  | bracket (negated : Bool) (inner : ClassTree)
  | repetition (inner : Tree) (least : Nat) (most : Option Nat)
  | group (captures : Bool) (change : FlagChange) (inner : Tree)
  | concat (items : List Tree)
  | alternation (items : List Tree)
deriving Repr, Inhabited

namespace ClassTree

mutual
/-- How many brackets, unions and operators are open at the deepest point. -/
def depth : ClassTree → Nat
  | .bracket _ inner => inner.depth + 1
  | .union [] => 0
  | .union items => depths 0 items + 1
  | .op _ left right => max left.depth right.depth + 1
  | _ => 0

/-- The depth of the deepest of some classes, but at least `n`. -/
def depths (n : Nat) : List ClassTree → Nat
  | [] => n
  | c :: rest => depths (max n c.depth) rest
end

/-- The class of several items; one item is no union. -/
def ofItems : List ClassTree → ClassTree
  | [item] => item
  | items => .union items

end ClassTree

namespace Tree

mutual
/-- How many groups, repetitions, sequences, alternations and parts of classes are open at the
deepest point. -/
def depth : Tree → Nat
  | .bracket _ inner => inner.depth + 1
  | .repetition inner _ _ => inner.depth + 1
  | .group _ _ inner => inner.depth + 1
  | .concat items => depths 0 items + 1
  | .alternation items => depths 0 items + 1
  | _ => 0

/-- The depth of the deepest of some patterns, but at least `n`. -/
def depths (n : Nat) : List Tree → Nat
  | [] => n
  | t :: rest => depths (max n t.depth) rest
end

/-- The pattern of several items in a row. -/
def ofItems : List Tree → Tree
  | [] => .empty
  | [item] => item
  | items => .concat items

end Tree
end CustomProps.Pattern
