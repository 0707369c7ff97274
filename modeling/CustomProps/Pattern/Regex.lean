import CustomProps.Pattern.Tree
/-!
Regular expressions in a normal form: neighbouring characters are one text, a set of one character
is a text, sequences and choices do not nest directly, and a choice between characters is a set. The
constructors to use are `ofSet`, `sequence`, `choice` and `repeated`, which keep the form. How large
the automaton of an expression is depends on it; what the expression matches does not.
-/
namespace CustomProps.Pattern

open Unicode (CodeSet)

/-- A kind of place in a text. -/
inductive Place where
  | textStart
  | textEnd
  | lineStart (crlf : Bool)
  | lineEnd (crlf : Bool)
  | word (edge : WordEdge) (unicode : Bool)
deriving DecidableEq, Repr, Inhabited

/-- Regular expressions over code points. -/
inductive Regex where
  | empty
  /-- These code points in a row, at least one. -/
  | text (codes : List Nat)
  /-- One character of a set. -/
  | one (set : CodeSet)
  | look (place : Place)
  | repetition (inner : Regex) (least : Nat) (most : Option Nat)
  | capture (inner : Regex)
  | concat (items : List Regex)
  | either (items : List Regex)
deriving BEq, Repr, Inhabited

namespace Regex

/-- The expression that matches nothing. -/
def fail : Regex := .one .empty

def ofSet (s : CodeSet) : Regex :=
  match s.only? with
  | some c => .text [c]
  | none => .one s

/-! ### Sequences -/

/-- Puts an expression before a sequence; a text joins a text that begins it. -/
def attach : Regex → List Regex → List Regex
  | .text cs, .text ds :: rest => .text (cs ++ ds) :: rest
  | r, rest => r :: rest

/-- The parts of an expression in a sequence. -/
def parts : Regex → List Regex
  | .empty => []
  | .concat items => items
  | r => [r]

/-- One expression after the other. -/
def sequence (items : List Regex) : Regex :=
  match (items.flatMap parts).foldr attach [] with
  | [] => .empty
  | [r] => r
  | rs => .concat rs

/-! ### Choices -/

/-- The branches of an expression in a choice. -/
def branches : Regex → List Regex
  | .either items => items
  | r => [r]

/-- The set that an expression of one given character stands for. -/
def character? : Regex → Option CodeSet
  | .text [c] => some (.singleton c)
  | _ => none

def set? : Regex → Option CodeSet
  | .one s => some s
  | _ => none

/-- One of several expressions, none of them a choice; characters and sets are joined to a set. -/
def oneOf (rs : List Regex) : Regex :=
  match rs with
  | [] => fail
  | [r] => r
  | rs =>
    match (rs.mapM character?).orElse fun _ => rs.mapM set? with
    | some sets => ofSet (.union sets)
    | none => .either rs

def items? : Regex → Option (List Regex)
  | .concat items => some items
  | _ => none

/-- What two sequences begin with in common. -/
def sharedStart : List Regex → List Regex → List Regex
  | r :: rs, q :: qs => if r == q then r :: sharedStart rs qs else []
  | _, _ => []

/-- One of several expressions. Sequences that all begin alike are one sequence that ends in a
choice. -/
def choice (rs : List Regex) : Regex :=
  let rs := rs.flatMap branches
  match rs.mapM items? with
  | some (first :: second :: rest) =>
    let start := (second :: rest).foldl sharedStart first
    if start.isEmpty then oneOf rs
    else
      let tails := (first :: second :: rest).map fun items => sequence (items.drop start.length)
      sequence (start ++ [oneOf (tails.flatMap branches)])
  | _ => oneOf rs

/-! ### Repetitions -/

mutual
/-- The expression matches at some places, but never a character. -/
def isPlace : Regex → Bool
  | .empty => true
  | .text _ => false
  | .one _ => false
  | .look _ => true
  | .repetition inner _ _ => inner.isPlace
  | .capture inner => inner.isPlace
  | .concat items => arePlaces items
  | .either items => arePlaces items

def arePlaces : List Regex → Bool
  | [] => true
  | r :: rest => r.isPlace && arePlaces rest
end

/-- An expression again and again, from `least` to `most` times. A place need not be visited
twice. -/
def repeated (inner : Regex) (least : Nat) (most : Option Nat) : Regex :=
  let least := if inner.isPlace then min least 1 else least
  let most := if inner.isPlace then some (min (most.getD 1) 1) else most
  if least = 0 ∧ most = some 0 then .empty
  else if least = 1 ∧ most = some 1 then inner
  else .repetition inner least most

end Regex
end CustomProps.Pattern
