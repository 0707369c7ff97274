import CustomProps.Toml.Scalar
/-!
Tables under construction. A table is defined by a header, by the keys of an inline table, or only
implied, by a header below it or by a key with points that passes through it. The rules that no
table and no key be defined twice hang on this difference: a key with points never passes through a
defined table, and a header may define a table only if it was implied by headers.
-/
namespace CustomProps.Toml

/-- How a table came about. -/
inductive Origin where
  /-- By its own header or braces. -/
  | defined
  /-- By a header below it. -/
  | impliedByHeader
  /-- By a key with points. -/
  | impliedByKey
deriving DecidableEq, Repr, Inhabited

/-- What a key stands for. Tables of an array of tables are listed last first. -/
inductive Node where
  | scalar (s : Scalar)
  | array (items : List Node)
  | inlineTable (entries : List (String × Node))
  | table (origin : Origin) (entries : List (String × Node))
  | tables (items : List (List (String × Node)))
deriving Repr, Inhabited

/-- The entries of a table, each key once. -/
abbrev Entries := List (String × Node)

namespace Entries

def find? (es : Entries) (key : String) : Option Node := List.lookup key es

/-- The entries with `node` at `key`, where there may have been another one. -/
def put (key : String) (node : Node) : Entries → Entries
  | [] => [(key, node)]
  | (k, n) :: rest => if k == key then (key, node) :: rest else (k, n) :: put key node rest

/-- Changes the table at the end of a path of headers; tables that do not exist are implied. -/
def alongHeader (change : Entries → Option Entries) : List String → Entries → Option Entries
  | [], es => change es
  | key :: path, es =>
    match es.find? key with
    | none => do
      some (es.put key (.table .impliedByHeader (← alongHeader change path [])))
    | some (.table origin inner) => do
      some (es.put key (.table origin (← alongHeader change path inner)))
    | some (.tables (last :: earlier)) => do
      some (es.put key (.tables ((← alongHeader change path last) :: earlier)))
    | _ => none

/-- Defines a table by its header. -/
def define (key : String) (es : Entries) : Option Entries :=
  match es.find? key with
  | none => some (es.put key (.table .defined []))
  | some (.table .impliedByHeader inner) => some (es.put key (.table .defined inner))
  | _ => none

/-- Adds a table to an array of tables by its header. -/
def append (key : String) (es : Entries) : Option Entries :=
  match es.find? key with
  | none => some (es.put key (.tables [[]]))
  | some (.tables items) => some (es.put key (.tables ([] :: items)))
  | _ => none

/-- Sets a key with points. Tables on the way that do not exist are implied. No table on the way may
have been defined, and the last one must have been implied by such keys alone. -/
def setKey (value : Node) : List String → Entries → Option Entries
  | [], _ => none
  | [key], es => if (es.find? key).isSome then none else some (es.put key value)
  | key :: path, es =>
    let isLast := path.length == 1
    match es.find? key with
    | none => do some (es.put key (.table .impliedByKey (← setKey value path [])))
    | some (.table .impliedByKey inner) => do
      some (es.put key (.table .impliedByKey (← setKey value path inner)))
    | some (.table .impliedByHeader inner) => do
      if isLast then none
      some (es.put key (.table .impliedByHeader (← setKey value path inner)))
    | some (.tables (last :: earlier)) => do
      if isLast then none
      some (es.put key (.tables ((← setKey value path last) :: earlier)))
    | _ => none

end Entries
end CustomProps.Toml
