import CustomProps.Json.Printer
import CustomProps.Json.Reader
import CustomProps.Json.Record
/-!
Stylesheets as they are exchanged with a program that reads and writes CSS: rules in document
order, each with its selector and its declarations. Their JSON form is laid out over lines; when
it is read, `rules`, `selector`, `declarations` and `value` may be left out, `prop` may not.
-/
namespace CustomProps

/-- One `prop: value` of a rule. -/
structure Declaration where
  prop : String
  value : String
deriving DecidableEq, Repr, Inhabited

/-- The declarations under one selector, in document order. -/
structure Rule where
  selector : String
  declarations : List Declaration
deriving DecidableEq, Repr, Inhabited

/-- The rules of a stylesheet, in document order. -/
structure Stylesheet where
  rules : List Rule
deriving DecidableEq, Repr, Inhabited

namespace Declaration

def toJson (d : Declaration) : Json :=
  .ofMembers [("prop", .ofString d.prop), ("value", .ofString d.value)]

def ofJson? (v : Json) : Option Declaration :=
  match Json.record? ["prop", "value"] v with
  | some [some prop, value] => do
    some ⟨← prop.string?, ← Json.fieldOr? "" Json.string? value⟩
  | _ => none

end Declaration

namespace Rule

def toJson (r : Rule) : Json :=
  .ofMembers
    [("selector", .ofString r.selector),
      ("declarations", .array (r.declarations.map Declaration.toJson))]

def ofJson? (v : Json) : Option Rule :=
  match Json.record? ["selector", "declarations"] v with
  | some [selector, declarations] => do
    some ⟨← Json.fieldOr? "" Json.string? selector,
      ← Json.fieldOr? [] (Json.list? Declaration.ofJson?) declarations⟩
  | _ => none

end Rule

namespace Stylesheet

def declarations (s : Stylesheet) : List Declaration := s.rules.flatMap Rule.declarations

def declarationCount (s : Stylesheet) : Nat := s.declarations.length

def toJson (s : Stylesheet) : Json :=
  .ofMembers [("rules", .array (s.rules.map Rule.toJson))]

def ofJson? (v : Json) : Option Stylesheet :=
  match Json.record? ["rules"] v with
  | some [rules] => do
    some ⟨← Json.fieldOr? [] (Json.list? Rule.ofJson?) rules⟩
  | _ => none

/-- The JSON text of a stylesheet. -/
def print (s : Stylesheet) : String := s.toJson.pretty

/-- The stylesheet that a JSON text writes. -/
def parse? (source : String) : Option Stylesheet := (Json.parse? source).bind ofJson?

end Stylesheet
end CustomProps
