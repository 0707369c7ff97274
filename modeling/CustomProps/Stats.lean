import CustomProps.Json.Printer
/-!
The counters of a run, and of several runs together.
-/
namespace CustomProps

structure Stats where
  rulesVisited : Nat
  declarationsVisited : Nat
  propertiesRenamed : Nat
  valuesRewritten : Nat
  namesDiscovered : Nat
  namesExcluded : Nat
  unterminatedValues : Nat
deriving DecidableEq, Repr, Inhabited

namespace Stats

def zero : Stats := ⟨0, 0, 0, 0, 0, 0, 0⟩

/-- The counters of two runs together. -/
def add (s t : Stats) : Stats where
  rulesVisited := s.rulesVisited + t.rulesVisited
  declarationsVisited := s.declarationsVisited + t.declarationsVisited
  propertiesRenamed := s.propertiesRenamed + t.propertiesRenamed
  valuesRewritten := s.valuesRewritten + t.valuesRewritten
  namesDiscovered := s.namesDiscovered + t.namesDiscovered
  namesExcluded := s.namesExcluded + t.namesExcluded
  unterminatedValues := s.unterminatedValues + t.unterminatedValues

instance : Add Stats := ⟨add⟩

def toJson (s : Stats) : Json :=
  .ofMembers
    [("rules_visited", .ofNat s.rulesVisited),
      ("declarations_visited", .ofNat s.declarationsVisited),
      ("properties_renamed", .ofNat s.propertiesRenamed),
      ("values_rewritten", .ofNat s.valuesRewritten),
      ("names_discovered", .ofNat s.namesDiscovered),
      ("names_excluded", .ofNat s.namesExcluded),
      ("unterminated_values", .ofNat s.unterminatedValues)]

/-- The counters for people, one a line after a heading; unterminated values only if there are
any. -/
def summary (s : Stats) : List String :=
  ["",
    "📊 Detailed Statistics:",
    s!"   Rules: {s.rulesVisited}",
    s!"   Declarations: {s.declarationsVisited}",
    s!"   Names discovered: {s.namesDiscovered}",
    s!"   Names excluded: {s.namesExcluded}",
    s!"   Properties renamed: {s.propertiesRenamed}",
    s!"   Values rewritten: {s.valuesRewritten}"] ++
    if 0 < s.unterminatedValues then
      [s!"   ⚠️  Unterminated var() values: {s.unterminatedValues}"]
    else []

end Stats
end CustomProps
