import CustomProps.PropertyName
import CustomProps.Stylesheet
import CustomProps.Value.Scan
/-!
A report of the custom properties that a stylesheet declares and refers to. Declarations that have
nothing to do with custom properties are left out.
-/
namespace CustomProps

/-- One reference of a declaration. -/
structure Usage where
  name : String
  span : Span
  hasFallback : Bool
deriving DecidableEq, Repr, Inhabited

/-- What one declaration declares and refers to. -/
structure ReportEntry where
  ruleIndex : Nat
  selector : String
  prop : String
  declares : Option String
  usages : List Usage
  unterminatedAt : Option Nat
deriving DecidableEq, Repr, Inhabited

namespace Usage

def toJson (u : Usage) : Json :=
  .ofMembers
    [("name", .ofString u.name), ("start", .ofNat u.span.start), ("end", .ofNat u.span.stop),
      ("has_default", .bool u.hasFallback)]

end Usage

namespace ReportEntry

/-- What is to be said of a declaration in the rule with the given number, if anything. -/
def ofDeclaration? (ruleIndex : Nat) (selector : String) (d : Declaration) : Option ReportEntry :=
  let scan := Value.scan d.value
  let declares := PropertyName.ofProp? d.prop
  if declares.isNone && scan.isEmpty && scan.unterminatedAt.isNone then none
  else
    some ⟨ruleIndex, selector, d.prop, declares,
      scan.references.map fun r => ⟨r.nameIn d.value, r.span, r.fallback.isSome⟩,
      scan.unterminatedAt⟩

def toJson (e : ReportEntry) : Json :=
  .ofMembers <|
    [("rule_index", .ofNat e.ruleIndex), ("selector", .ofString e.selector),
      ("prop", .ofString e.prop),
      ("declares", (e.declares.map Json.ofString).getD .null),
      ("usages", .array (e.usages.map Usage.toJson))] ++
    (e.unterminatedAt.map fun n => ("unterminated_at", Json.ofNat n)).toList

/-- The entry for people: one line for the declaration, then one for each thing said of it. -/
def summary (e : ReportEntry) : List String :=
  [s!"  [{e.ruleIndex}] {e.selector} {e.prop}"] ++
    (e.declares.map fun name => s!"      declares --{name}").toList ++
    (e.usages.map fun u =>
      s!"      uses --{u.name} at {u.span.start}..{u.span.stop}" ++
        if u.hasFallback then " (with default)" else "") ++
    (e.unterminatedAt.map fun n => s!"      ⚠️  unterminated var( at {n}").toList

end ReportEntry

/-- The report of the rules from the one with the given number on. -/
def reportFrom (ruleIndex : Nat) : List Rule → List ReportEntry
  | [] => []
  | r :: rest =>
    r.declarations.filterMap (ReportEntry.ofDeclaration? ruleIndex r.selector) ++
      reportFrom (ruleIndex + 1) rest

/-- The report of a stylesheet, in document order. -/
def Stylesheet.report (s : Stylesheet) : List ReportEntry := reportFrom 0 s.rules

end CustomProps
