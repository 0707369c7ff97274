import CustomProps.Balanced
/-!
Sets of code points, kept as the bounds at which membership changes: a code point is in the set iff
an odd number of bounds lie at or before it. Bounds ascend, so membership is found by halving, and
one merge of the bounds of two sets gives any boolean combination of them.
-/
namespace CustomProps.Unicode

/-- How many of the first `high` positions of an ascending sequence lie before the first one that is
not `below`, found by halving the stretch from `low` to `high`. -/
def search (below : Nat → Bool) (low high : Nat) : Nat :=
  if low < high then
    let middle := (low + high) / 2
    if below middle then search below (middle + 1) high else search below low middle
  else low
termination_by high - low

/-- A set of code points; its bounds strictly ascend and are even in number. -/
structure CodeSet where
  bounds : Array Nat
deriving DecidableEq, Repr, Inhabited

namespace CodeSet

def contains (s : CodeSet) (c : Nat) : Bool :=
  search (fun i => s.bounds[i]?.any fun b => b ≤ c) 0 s.bounds.size % 2 == 1

def empty : CodeSet := ⟨#[]⟩

/-- The code points from `first` to `last`. -/
def ofRange (first last : Nat) : CodeSet :=
  if first ≤ last then ⟨#[first, last + 1]⟩ else empty

def singleton (c : Nat) : CodeSet := ofRange c c

/-- The bounds of a combination of two sets, from the bounds of both. The first two arguments after
`op` tell whether the stretch before the bounds is in either set. -/
def mergeBounds (op : Bool → Bool → Bool) : Bool → Bool → List Nat → List Nat → List Nat
  | _, _, [], [] => []
  | x, y, a :: s, [] => note x y (!x) y a (mergeBounds op (!x) y s [])
  | x, y, [], b :: t => note x y x (!y) b (mergeBounds op x (!y) [] t)
  | x, y, a :: s, b :: t =>
    if a < b then note x y (!x) y a (mergeBounds op (!x) y s (b :: t))
    else if b < a then note x y x (!y) b (mergeBounds op x (!y) (a :: s) t)
    else note x y (!x) (!y) a (mergeBounds op (!x) (!y) s t)
termination_by _ _ s t => s.length + t.length
where
  /-- Keeps a bound if membership changes there. -/
  note (x y x' y' : Bool) (bound : Nat) (rest : List Nat) : List Nat :=
    if op x y == op x' y' then rest else bound :: rest

/-- The code points that are in the two sets as `op` wants; it must not want those in neither. -/
def combine (op : Bool → Bool → Bool) (s t : CodeSet) : CodeSet :=
  ⟨(mergeBounds op false false s.bounds.toList t.bounds.toList).toArray⟩

instance : Union CodeSet := ⟨combine fun x y => x || y⟩

instance : Inter CodeSet := ⟨combine fun x y => x && y⟩

instance : SDiff CodeSet := ⟨combine fun x y => x && !y⟩

/-- The code points that are in exactly one of two sets. -/
def symmetricDifference : CodeSet → CodeSet → CodeSet := combine fun x y => x != y

/-- The union of all sets of a list. -/
def union (sets : List CodeSet) : CodeSet := (Balanced.join? (· ∪ ·) sets).getD empty

/-- The ranges of a set in ascending order, ends included. -/
def ranges (s : CodeSet) : List (Nat × Nat) := pairs s.bounds.toList
where
  pairs : List Nat → List (Nat × Nat)
    | first :: next :: rest => (first, next - 1) :: pairs rest
    | _ => []

def isEmpty (s : CodeSet) : Bool := s.bounds.isEmpty

/-- The one member of a set that has no others. -/
def only? (s : CodeSet) : Option Nat :=
  match s.bounds with
  | #[c, next] => if next = c + 1 then some c else none
  | _ => none

/-- Every code point, surrogates left out: they stand for no character. -/
def characters : CodeSet := ⟨#[0, 0xd800, 0xe000, 0x110000]⟩

/-- The characters that are not in a set. -/
def complement (s : CodeSet) : CodeSet := characters \ s

/-- Every member is in ASCII. -/
def isAscii (s : CodeSet) : Bool := s.bounds.back?.all fun b => b ≤ 0x80

end CodeSet
end CustomProps.Unicode
