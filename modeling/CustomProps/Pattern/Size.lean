import Std.Data.HashMap
import CustomProps.Pattern.Regex
import CustomProps.Pattern.Utf8
/-!
How much room the automata of an expression take. An expression is run by two automata over the
bytes of a text, one for each direction. A state takes some room, and more for every branch or every
transition that it has; counted repetitions are written out. Expressions that would take more than
`limit` bytes are refused.
-/
namespace CustomProps.Pattern

open Unicode (CodeSet)
open Utf8 (ByteRange ByteSequence)

namespace Size

/-- The bytes that a state takes. -/
def state : Nat := 32

/-- The bytes that a state takes for each transition on a range of bytes, if it has several. -/
def transition : Nat := 8

/-- The bytes that a state takes for each branch that is open at once. -/
def branch : Nat := 4

/-- Ten mebibytes. -/
def limit : Nat := 10 * 1024 * 1024

inductive Direction where
  | forward
  | backward
deriving DecidableEq, Repr, Inhabited

/-! ### Sets of characters -/

/-- The states made so far for a set: what each one does is the list of its transitions, and equal
states are made once. State 0 is the one that the set leads to. -/
structure States where
  numbers : Std.HashMap (List (ByteRange × Nat)) Nat
  room : Nat

/-- The number of the state with given transitions. -/
def number (transitions : List (ByteRange × Nat)) : StateM States Nat := do
  let states ← get
  match states.numbers[transitions]? with
  | some n => return n
  | none =>
    let n := states.numbers.size + 1
    set (⟨states.numbers.insert transitions n,
      states.room + state + transition * transitions.length⟩ : States)
    return n

/-- The number of the state that accepts some sequences of at most `depth` bytes, none of which
begins another. -/
def numberOf : (depth : Nat) → List ByteSequence → StateM States Nat
  | 0, _ => return 0
  | depth + 1, sequences => do
    let transitions ← (Utf8.groups sequences).mapM fun (head, tails) => do
      return (head, ← numberOf depth tails)
    if transitions.isEmpty then return 0 else number transitions

/-- How many ways there are to begin one of some sequences of at most `depth` bytes. -/
def beginnings : (depth : Nat) → List ByteSequence → Nat
  | 0, _ => 0
  | depth + 1, sequences =>
    (Utf8.groups sequences).foldl (fun n (_, tails) => n + 1 + beginnings depth tails) 0

/-- Forward, states that do the same are shared; backward, those that are led to alike. -/
def ofSet (d : Direction) (s : CodeSet) : Nat :=
  if s.isAscii then 2 * state + transition * s.ranges.length
  else
    let sequences := Utf8.sequences s
    match d with
    | .forward => ((numberOf 4 sequences).run ⟨∅, state⟩).2.room
    | .backward => 2 * state + branch * sequences.length + state * beginnings 4 sequences

/-! ### Choices between texts -/

/-- The words of a list up to each word that is empty, and after the last such word. -/
def segments : List (List Nat) → List (List (List Nat)) :=
  List.foldr (fun word gathered =>
    match word, gathered with
    | [], gathered => [] :: gathered
    | word, segment :: more => (word :: segment) :: more
    | word, [] => [[word]]) [[]]

/-- What some words of at most `depth` bytes take that branch where they differ. A word that is over
while others go on parts the words before it from those after it. -/
def ofWords : (depth : Nat) → List (List Nat) → Nat
  | 0, _ => 0
  | depth + 1, words =>
    if words.all List.isEmpty then 0
    else
      let segments := segments words
      let filled := segments.filter fun segment => !segment.isEmpty
      let ofSegment (segment : List (List Nat)) : Nat :=
        let heads := (segment.filterMap List.head?).eraseDups
        let tailsOf (head : Nat) : List (List Nat) :=
          (segment.filter fun word => word.head? == some head).map List.tail
        (if heads.length = 1 then state else state + transition * heads.length) +
          (heads.map fun head => ofWords depth (tailsOf head)).sum
      state + branch * (filled.length + segments.length - 1) + (filled.map ofSegment).sum

/-- A choice between texts, given by their bytes. -/
def ofTexts (d : Direction) (words : List (List Nat)) : Nat :=
  let words := match d with
    | .forward => words
    | .backward => words.map List.reverse
  state + ofWords (words.foldl (fun n word => max n word.length) 0) words

end Size

namespace Regex

open Size

mutual
/-- The least number of characters in a match; `none` if there may be no match. -/
def leastLength? : Regex → Option Nat
  | .empty => some 0
  | .text codes => some codes.length
  | .one s => if s.isEmpty then none else some 1
  | .look _ => some 0
  | .repetition inner least _ => inner.leastLength?.map (least * ·)
  | .capture inner => inner.leastLength?
  | .concat items => (leastLengths? [] items).map List.sum
  | .either items => (leastLengths? [] items).map fun lengths => lengths.min?.getD 0

/-- The same for each of some expressions, if it is known for all. -/
def leastLengths? (done : List Nat) : List Regex → Option (List Nat)
  | [] => some done
  | r :: rest =>
    match r.leastLength? with
    | some n => leastLengths? (n :: done) rest
    | none => none
end

def bytes? : Regex → Option (List Nat)
  | .text codes => some (codes.flatMap Utf8.encode)
  | _ => none

/-- A repetition of an expression that takes `r` bytes. -/
def repetitionSize (r : Nat) (consumes : Bool) (least : Nat) : Option Nat → Nat
  | some most =>
    if least = 0 ∧ most = 1 then 2 * state + 2 * branch + r
    else
      (if least = 0 then state else least * r) +
        if least = most then 0 else state + (most - least) * (state + 2 * branch + r)
  | none =>
    if least = 0 then
      if consumes then state + 2 * branch + r else 3 * state + 4 * branch + r
    else least * r + state + 2 * branch

mutual
/-- The bytes that the automaton for one direction takes. -/
def size (d : Direction) : Regex → Nat
  | .empty => state
  | .text codes => state * (codes.flatMap Utf8.encode).length
  | .one s => Size.ofSet d s
  | .look _ => state
  | .repetition inner least most =>
    repetitionSize (inner.size d) (inner.leastLength?.any (0 < ·)) least most
  | .capture inner =>
    match d with
    | .forward => 2 * state + inner.size d
    | .backward => inner.size d
  | .concat items => sizes d 0 items
  | .either items =>
    match items.mapM bytes? with
    | some words => Size.ofTexts d words
    | none => 2 * state + branch * items.length + sizes d 0 items

/-- What some expressions take together, and `n` bytes more. -/
def sizes (d : Direction) (n : Nat) : List Regex → Nat
  | [] => n
  | r :: rest => sizes d (n + r.size d) rest
end

/-- An automaton that finds the expression anywhere in a text, noting where a match lies. -/
def searchSize (r : Regex) (d : Direction) : Nat :=
  let skipping := 3 * state + transition + 2 * branch
  skipping + Regex.size d (.capture r) + state

def isTooLarge (r : Regex) : Bool :=
  limit < max (r.searchSize .forward) (r.searchSize .backward)

end Regex
end CustomProps.Pattern
