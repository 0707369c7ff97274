import CustomProps.Json.Token
/-!
Reading a value from its tokens. The reader keeps a stack of the containers that are open, each
with what it holds so far, and takes one token at a time; so reading a text is one fold over its
tokens, and nesting costs no recursion.
-/
namespace CustomProps.Json

/-- A container that is still open, with what it holds so far, last first; an object also has the
key whose value is being read. -/
inductive Container where
  | array (items : List Json)
  | object (members : List (Option String × Json)) (pending : Option String)
deriving Repr, Inhabited

/-- What may come next, with the containers that are open, innermost first. -/
inductive Reader where
  /-- A value must come. -/
  | value (outer : List Container)
  /-- The first item of an array, or its end. -/
  | firstItem (outer : List Container)
  /-- A comma or the end of an array. -/
  | afterItem (items : List Json) (outer : List Container)
  /-- The first key of an object, or its end. -/
  | firstKey (outer : List Container)
  /-- A key must come. -/
  | nextKey (members : List (Option String × Json)) (outer : List Container)
  /-- The colon after a key must come. -/
  | colon (members : List (Option String × Json)) (pending : Option String) (outer : List Container)
  /-- A comma or the end of an object. -/
  | afterMember (members : List (Option String × Json)) (outer : List Container)
  /-- The value is complete. -/
  | done (v : Json)
deriving Repr, Inhabited

namespace Reader

/-- Hands a complete value to the innermost open container. -/
def deliver (v : Json) : List Container → Reader
  | [] => .done v
  | .array items :: outer => .afterItem (v :: items) outer
  | .object members key :: outer => .afterMember ((key, v) :: members) outer

/-- The first token of a value. -/
def beginValue (outer : List Container) : Token → Option Reader
  | .null => some (deliver .null outer)
  | .bool b => some (deliver (.bool b) outer)
  | .number n => some (deliver (.number n) outer)
  | .string text => some (deliver (.string text) outer)
  | .openArray => some (.firstItem outer)
  | .openObject => some (.firstKey outer)
  | _ => none

/-- Takes one token; `none` if it cannot stand where it does. -/
def step : Reader → Token → Option Reader
  | .value outer, t => beginValue outer t
  | .firstItem outer, .closeArray => some (deliver (.array []) outer)
  | .firstItem outer, t => beginValue (.array [] :: outer) t
  | .afterItem items outer, .comma => some (.value (.array items :: outer))
  | .afterItem items outer, .closeArray => some (deliver (.array items.reverse) outer)
  | .firstKey outer, .closeObject => some (deliver (.object []) outer)
  | .firstKey outer, .string key => some (.colon [] key outer)
  | .nextKey members outer, .string key => some (.colon members key outer)
  | .colon members key outer, .colon => some (.value (.object members key :: outer))
  | .afterMember members outer, .comma => some (.nextKey members outer)
  | .afterMember members outer, .closeObject => some (deliver (.object members.reverse) outer)
  | _, _ => none

end Reader

/-- The value that a list of tokens writes. -/
def ofTokens? (tokens : List Token) : Option Json :=
  match tokens.foldlM Reader.step (.value []) with
  | some (.done v) => some v
  | _ => none

/-- The value that a text writes, blanks around it apart. -/
def parse? (source : String) : Option Json := (Token.ofText? source).bind ofTokens?

end CustomProps.Json
