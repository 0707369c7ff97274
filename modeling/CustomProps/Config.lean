import CustomProps.Json.Printer
import CustomProps.Json.Reader
import CustomProps.Json.Record
import CustomProps.Options
import CustomProps.Toml.Parser
/-!
Configurations: options as they are written in JSON or TOML. Every field may be left out. Exclusions
are written as names, or as tables with a `pattern`. A configuration file may also name where to
write; there the whole text has to make sense, not only the fields that count.
-/
namespace CustomProps

/-- A configuration as it is written; nothing in it has been checked. -/
structure Config where
  strategy : Option String
  except : List ExclusionEntry
  lead : Option String
deriving DecidableEq, Repr, Inhabited

/-- How deep a JSON text may nest where it is read in full. -/
def Config.nestingBound : Nat := 128

namespace ExclusionEntry

def toJson : ExclusionEntry → Json
  | .name n => .ofString n
  | .pattern text => .ofMembers [("pattern", .ofString text)]

/-- An entry is a string, or an object that has one `pattern` that is a string. -/
def ofJson? (v : Json) : Option ExclusionEntry :=
  if !v.isExact then none
  else
    match v with
    | .string text => text.map .name
    | .object members => do
      let text ← (← Json.field? (← Json.textMembers? members) "pattern")
      some (.pattern (← text.string?))
    | _ => none

/-- The entry that a table with the given entries asks for. -/
def ofTable? (es : Toml.Entries) : Option ExclusionEntry :=
  match es.find? "pattern" with
  | some (.scalar (.string text)) => some (.pattern text)
  | _ => none

def ofToml? : Toml.Node → Option ExclusionEntry
  | .scalar (.string n) => some (.name n)
  | .inlineTable es | .table _ es => ofTable? es
  | _ => none

end ExclusionEntry

namespace Config

/-- Nothing is configured. -/
def empty : Config := ⟨none, [], none⟩

/-- The options that a configuration asks for; the strategy is checked first, then the patterns in
order. -/
def options (c : Config) : Except OptionsError Options := do
  let strategy ←
    match c.strategy with
    | some word => Strategy.parse word
    | none => .ok .plain
  let except ← c.except.mapM ExclusionEntry.compile
  return ⟨strategy, except, c.lead⟩

/-! ### JSON -/

def fields : List String := ["strategy", "except", "prefix"]

def toJson (c : Config) : Json :=
  .ofMembers
    [("strategy", (c.strategy.map Json.ofString).getD .null),
      ("except", .array (c.except.map ExclusionEntry.toJson)),
      ("prefix", (c.lead.map Json.ofString).getD .null)]

/-- The JSON text of a configuration, without blanks. -/
def print (c : Config) : String := c.toJson.compact

/-- The configuration of the three fields; `outer` containers are open around an exclusion. -/
def ofFields? (outer : Nat) : List (Option Json) → Option Config
  | [strategy, except, lead] => do
    let entry? (v : Json) : Option ExclusionEntry :=
      if v.depth + outer < nestingBound then ExclusionEntry.ofJson? v else none
    some ⟨← Json.fieldOr? none (Json.option? Json.string?) strategy,
      ← Json.fieldOr? [] (Json.list? entry?) except,
      ← Json.fieldOr? none (Json.option? Json.string?) lead⟩
  | _ => none

def ofJson? (v : Json) : Option Config := (Json.record? fields v).bind (ofFields? 2)

/-- The configuration that a JSON text writes. -/
def ofJsonText? (source : String) : Option Config := (Json.parse? source).bind ofJson?

/-! ### TOML -/

/-- The string at a key, if the key is there. -/
def tomlString? (es : Toml.Entries) (key : String) : Option (Option String) :=
  match es.find? key with
  | none => some none
  | some (.scalar (.string s)) => some (some s)
  | _ => none

def ofToml? (es : Toml.Entries) : Option Config := do
  let except ←
    match es.find? "except" with
    | none => some []
    | some (.array items) => items.mapM ExclusionEntry.ofToml?
    | some (.tables items) => items.reverse.mapM ExclusionEntry.ofTable?
    | _ => none
  some ⟨← tomlString? es "strategy", except, ← tomlString? es "prefix"⟩

/-- The configuration that a TOML text writes. -/
def ofTomlText? (source : String) : Option Config := (Toml.parse? source).bind ofToml?

end Config

/-- A configuration file: options, and where to write results and maps. -/
structure ConfigFile where
  config : Config
  outputDirectory : Option String
  mapFile : Option String
deriving DecidableEq, Repr, Inhabited

namespace ConfigFile

def empty : ConfigFile := ⟨.empty, none, none⟩

/-- The file that a JSON value writes: an object, all of which has to make sense. -/
def ofJson? (v : Json) : Option ConfigFile :=
  match v with
  | .object members => do
    if !v.isExact || Config.nestingBound ≤ v.depth then none
    let members ← Json.textMembers? members
    let text? (name : String) : Option (Option String) := do
      Json.fieldOr? none (Json.option? Json.string?) (← Json.field? members name)
    some ⟨← Config.ofFields? 2 (← Config.fields.mapM (Json.field? members)),
      ← text? "output_directory", ← text? "map_file"⟩
  | _ => none

def ofJsonText? (source : String) : Option ConfigFile := (Json.parse? source).bind ofJson?

def ofToml? (es : Toml.Entries) : Option ConfigFile := do
  some ⟨← Config.ofToml? es, ← Config.tomlString? es "output_directory",
    ← Config.tomlString? es "map_file"⟩

def ofTomlText? (source : String) : Option ConfigFile := (Toml.parse? source).bind ofToml?

end ConfigFile
end CustomProps
