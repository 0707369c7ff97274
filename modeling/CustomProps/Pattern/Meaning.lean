import CustomProps.Pattern.Matching
import CustomProps.Pattern.Tree
/-!
What a pattern means under the flags that are in force where its parts stand. With the Unicode flag,
which is on at first, classes are sets of characters and case is ignored by simple folding. Without
it they are sets of ASCII characters; as matches are texts, whatever could match half a character,
such as the complement of a set of bytes, is refused.
-/
namespace CustomProps.Pattern

open Unicode (CodeSet)

/-- The flags that matter for which texts match. -/
structure Flags where
  ignoreCase : Bool
  multiLine : Bool
  dotAll : Bool
  unicode : Bool
  crlf : Bool
deriving DecidableEq, Repr, Inhabited

namespace Flags

def initial : Flags := ⟨false, false, false, true, false⟩

def apply (f : Flags) (change : FlagChange) : Flags where
  ignoreCase := (change.of? .ignoreCase).getD f.ignoreCase
  multiLine := (change.of? .multiLine).getD f.multiLine
  dotAll := (change.of? .dotAll).getD f.dotAll
  unicode := (change.of? .unicode).getD f.unicode
  crlf := (change.of? .crlf).getD f.crlf

end Flags

/-! ### Sets of characters -/

namespace Posix

/-- The members of a named class. -/
def codes : Posix → CodeSet
  | .alnum => .union [.ofRange 0x30 0x39, .ofRange 0x41 0x5a, .ofRange 0x61 0x7a]
  | .alpha => .ofRange 0x41 0x5a ∪ .ofRange 0x61 0x7a
  | .ascii => .ofRange 0x00 0x7f
  | .blank => .singleton 0x09 ∪ .singleton 0x20
  | .cntrl => .ofRange 0x00 0x1f ∪ .singleton 0x7f
  | .digit => .ofRange 0x30 0x39
  | .graph => .ofRange 0x21 0x7e
  | .lower => .ofRange 0x61 0x7a
  | .print => .ofRange 0x20 0x7e
  | .punct =>
    .union [.ofRange 0x21 0x2f, .ofRange 0x3a 0x40, .ofRange 0x5b 0x60, .ofRange 0x7b 0x7e]
  | .space => .ofRange 0x09 0x0d ∪ .singleton 0x20
  | .upper => .ofRange 0x41 0x5a
  | .word => asciiWord
  | .xdigit => .union [.ofRange 0x30 0x39, .ofRange 0x41 0x46, .ofRange 0x61 0x66]

end Posix

/-- The members of a class with a one-letter escape. -/
def Shorthand.codes (unicode : Bool) : Shorthand → CodeSet
  | .digit => if unicode then Unicode.digit else Posix.digit.codes
  | .space => if unicode then Unicode.space else Posix.space.codes
  | .word => if unicode then Unicode.word else Posix.word.codes

def SetOp.apply : SetOp → CodeSet → CodeSet → CodeSet
  | .intersection, s, t => s ∩ t
  | .difference, s, t => s \ t
  | .symmetricDifference, s, t => s.symmetricDifference t

/-- A set with the other cases of the letters of ASCII in it. -/
def closeAscii (s : CodeSet) : CodeSet :=
  let upper := s ∩ Posix.upper.codes
  let lower := s ∩ Posix.lower.codes
  .union [s, ⟨upper.bounds.map (· + 0x20)⟩, ⟨lower.bounds.map (· - 0x20)⟩]

namespace Flags

/-- The set without regard to case, if case is to be ignored. -/
def fold (f : Flags) (s : CodeSet) : CodeSet :=
  if f.ignoreCase then (if f.unicode then Unicode.CaseFolding.close s else closeAscii s) else s

/-- The complement of a set, if asked for; without the Unicode flag it would hold lone bytes. -/
def negate (f : Flags) (negated : Bool) (s : CodeSet) : Except Fault CodeSet :=
  if negated then (if f.unicode then .ok s.complement else .error .notText) else .ok s

/-- The code point a literal stands for; a byte beyond ASCII is no text. -/
def literal (f : Flags) (l : Literal) : Except Fault Nat :=
  if !f.unicode && l.isByte && 0x80 ≤ l.char.toNat then .error .notText else .ok l.char.toNat

/-- The code point of a literal in a class; without the Unicode flag it must be ASCII. -/
def classLiteral (f : Flags) (l : Literal) : Except Fault Nat := do
  let c ← f.literal l
  if !f.unicode && 0x80 ≤ c then throw .propertyForbidden
  return c

def shorthand (f : Flags) (kind : Shorthand) (negated : Bool) : Except Fault CodeSet :=
  f.negate negated (kind.codes f.unicode)

def property (f : Flags) (query : Unicode.Query) (negated : Bool) : Except Fault CodeSet :=
  if !f.unicode then .error .propertyForbidden
  else
    match Unicode.find? query with
    | some s => f.negate negated (f.fold (s ∩ .characters))
    | none => .error .propertyUnknown

/-- All characters, or those that break no line. -/
def dot (f : Flags) : Except Fault CodeSet :=
  if !f.unicode then .error .notText
  else if f.dotAll then .ok .characters
  else if f.crlf then
    .ok (.characters \ (.singleton Gap.lineFeed ∪ .singleton Gap.carriageReturn))
  else .ok (.characters \ .singleton Gap.lineFeed)

/-- The kind of place that an assertion asks for. -/
def place (f : Flags) : Assertion → Place
  | .lineStart => if f.multiLine then .lineStart f.crlf else .textStart
  | .lineEnd => if f.multiLine then .lineEnd f.crlf else .textEnd
  | .textStart => .textStart
  | .textEnd => .textEnd
  | .word edge => .word edge f.unicode

end Flags

mutual
/-- The set that a class denotes. -/
def ClassTree.meaning (f : Flags) : ClassTree → Except Fault CodeSet
  | .literal l => do return .singleton (← f.classLiteral l)
  | .range first last => do
    return .ofRange (← f.classLiteral first) (← f.classLiteral last) ∩ .characters
  | .shorthand kind negated => f.shorthand kind negated
  | .posix kind negated => f.negate negated (f.fold kind.codes)
  | .property query negated => f.property query negated
  | .bracket negated inner => do f.negate negated (f.fold (← inner.meaning f))
  | .union items => do return .union (← ClassTree.meanings f [] items)
  | .op kind left right => do
    return kind.apply (f.fold (← left.meaning f)) (f.fold (← right.meaning f))

/-- The sets of some classes, and of those before them. -/
def ClassTree.meanings (f : Flags) (done : List CodeSet) :
    List ClassTree → Except Fault (List CodeSet)
  | [] => .ok done
  | c :: rest =>
    match c.meaning f with
    | .ok s => ClassTree.meanings f (s :: done) rest
    | .error e => .error e
end

/-! ### Patterns -/

mutual
/-- What a pattern means where the flags are `f`, and the flags after it. A group keeps the changes
inside it to itself; between alternatives they last. -/
def Tree.meaning (f : Flags) : Tree → Except Fault (Regex × Flags)
  | .empty => .ok (.empty, f)
  | .flags change => .ok (.empty, f.apply change)
  | .literal l => do return (.ofSet (f.fold (.singleton (← f.literal l))), f)
  | .dot => do return (.ofSet (← f.dot), f)
  | .assertion a => .ok (.look (f.place a), f)
  | .shorthand kind negated => do return (.ofSet (← f.shorthand kind negated), f)
  | .property query negated => do return (.ofSet (← f.property query negated), f)
  | .bracket negated inner => do
    return (.ofSet (← f.negate negated (f.fold (← inner.meaning f))), f)
  | .repetition inner least most => do
    let (r, after) ← inner.meaning f
    return (.repeated r least most, after)
  | .group captures change inner => do
    let (r, _) ← inner.meaning (f.apply change)
    return (if captures then .capture r else r, f)
  | .concat items => do
    let (rs, f) ← Tree.meanings f [] items
    return (.sequence rs, f)
  | .alternation items => do
    let (rs, f) ← Tree.meanings f [] items
    return (.choice rs, f)

/-- What some patterns mean one after the other, behind those before them, the last one first. -/
def Tree.meanings (f : Flags) (done : List Regex) :
    List Tree → Except Fault (List Regex × Flags)
  | [] => .ok (done.reverse, f)
  | t :: rest =>
    match t.meaning f with
    | .ok (r, f) => Tree.meanings f (r :: done) rest
    | .error e => .error e
end

end CustomProps.Pattern
