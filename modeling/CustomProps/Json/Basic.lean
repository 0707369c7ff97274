import CustomProps.Decimal
/-!
JSON values as they are written: numbers keep the digits that stand in the text, objects keep
their members in order with all repetitions, and a string whose escapes name a surrogate without
its partner is a value that denotes no text. So reading can accept every well-formed text, and who
takes a value decides what it may be: `isExact` is what full reading demands, `depth` the nesting.
-/
namespace CustomProps

/-- A number as it is written: its sign, the digits before the point as a number, the digits after
it, and the exponent, if one is written. -/
structure Numeral where
  negative : Bool
  whole : Nat
  fraction : List Nat
  exponent : Option Int
deriving DecidableEq, Repr, Inhabited

namespace Numeral

def ofNat (n : Nat) : Numeral := ⟨false, n, [], none⟩

/-- The number is finite in double precision, read quickly. -/
def isFinite (n : Numeral) : Bool :=
  Decimal.isFiniteQuickly n.whole n.fraction (n.exponent.getD 0)

end Numeral

/-- A JSON value; a string or key that denotes no text is `none`. -/
inductive Json where
  | null
  | bool (b : Bool)
  | number (n : Numeral)
  | string (text : Option String)
  | array (items : List Json)
  | object (members : List (Option String × Json))
deriving Repr, Inhabited

namespace Json

/-- A string value with the given text. -/
def ofString (s : String) : Json := .string (some s)

def ofNat (n : Nat) : Json := .number (.ofNat n)

/-- An object with the given members, in order. -/
def ofMembers (members : List (String × Json)) : Json :=
  .object (members.map fun (k, v) => (some k, v))

mutual
/-- How many containers are open at the deepest point. -/
def depth : Json → Nat
  | .array items => depthItems items + 1
  | .object members => depthMembers members + 1
  | _ => 0

def depthItems : List Json → Nat
  | [] => 0
  | v :: rest => max v.depth (depthItems rest)

def depthMembers : List (Option String × Json) → Nat
  | [] => 0
  | (_, v) :: rest => max v.depth (depthMembers rest)
end

mutual
/-- Every string and key denotes a text and every number is finite in double precision. -/
def isExact : Json → Bool
  | .number n => n.isFinite
  | .string text => text.isSome
  | .array items => areExact items
  | .object members => membersExact members
  | _ => true

def areExact : List Json → Bool
  | [] => true
  | v :: rest => v.isExact && areExact rest

def membersExact : List (Option String × Json) → Bool
  | [] => true
  | (k, v) :: rest => k.isSome && v.isExact && membersExact rest
end

end Json
end CustomProps
