import CustomProps.Json.Basic
/-!
Taking values apart by type. A record is written as an object, where each of its fields stands at
most once and other members are passed over, or as an array of its first fields in order.
-/
namespace CustomProps.Json

def string? : Json → Option String
  | .string text => text
  | _ => none

/-- The items of an array, each read by `read`. -/
def list? {α : Type} (read : Json → Option α) : Json → Option (List α)
  | .array items => items.mapM read
  | _ => none

/-- A value that may be absent: `null` is absence. -/
def option? {α : Type} (read : Json → Option α) : Json → Option (Option α)
  | .null => some none
  | v => (read v).map some

/-- The texts of all keys and their values; `none` if a key denotes no text. -/
def textMembers? (members : List (Option String × Json)) : Option (List (String × Json)) :=
  members.mapM fun (k, v) => k.map (·, v)

/-- The value of `name` among members, if it stands there at all; `none` if it stands there more
than once. -/
def field? (members : List (String × Json)) (name : String) : Option (Option Json) :=
  match members.filter fun m => m.1 == name with
  | [] => some none
  | [(_, v)] => some (some v)
  | _ => none

/-- The values of the named fields of a record, in the order of `names`. -/
def record? (names : List String) : Json → Option (List (Option Json))
  | .object members => (textMembers? members).bind fun ms => names.mapM (field? ms)
  | .array items =>
    if items.length ≤ names.length then
      some (items.map some ++ List.replicate (names.length - items.length) none)
    else none
  | _ => none

/-- The value of a field that may be left out, in which case it is `default`. -/
def fieldOr? {α : Type} (default : α) (read : Json → Option α) : Option Json → Option α
  | some v => read v
  | none => some default

end CustomProps.Json
