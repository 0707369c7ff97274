import CustomProps.Log
import CustomProps.PropertyName
import CustomProps.Resolver
import CustomProps.Stylesheet
import CustomProps.Text.Edit
/-!
A walk over declarations, in document order, that renames custom properties. A declaration's own
name comes before the names its value refers to. The walk remembers what names have been resolved
to, enters new names in the renaming map, and counts what it does.
-/
namespace CustomProps

structure Walk where
  resolver : Resolver
  map : RenamingMap
  stats : Stats
  log : Array Log.Event

namespace Walk

def start (o : Options) : Walk := ⟨.new o, .empty, .zero, #[]⟩

def report (w : Walk) (e : Log.Event) : Walk := { w with log := w.log.push e }

/-- Resolves a name that was met and enters it in the map. -/
def meet (w : Walk) (name : String) : Resolution × Walk :=
  let (resolution, resolver) := w.resolver.resolve name
  let news : List Log.Event :=
    if resolution.excluded then (if w.resolver.knows name then [] else [.nameExcluded name])
    else if w.map.contains name then []
    else [.nameMapped name resolution.renamed]
  (resolution,
    { w with
      resolver := resolver
      map := w.map.record name resolution
      log := w.log ++ news })

/-- The property of a declaration after renaming. -/
def property (w : Walk) (prop : String) : String × Walk :=
  match PropertyName.ofProp? prop with
  | none => (prop, w)
  | some name =>
    let (resolution, w) := w.meet name
    if resolution.changes name then
      let renamed := PropertyName.rewriteProp prop resolution.renamed
      let w := w.report (.propertyRenamed prop renamed)
      (renamed,
        { w with stats := { w.stats with propertiesRenamed := w.stats.propertiesRenamed + 1 } })
    else (prop, w)

/-- The edits that rename the given references of a value, in their order. -/
def edits (w : Walk) (value : String) : List Value.Reference → List Edit × Walk
  | [] => ([], w)
  | r :: rest =>
    let name := r.nameIn value
    let (resolution, w) := w.meet name
    let (later, w) := w.edits value rest
    (if resolution.changes name then (⟨r.name, resolution.renamed⟩ :: later, w) else (later, w))

/-- The value of a declaration after renaming. -/
def value (w : Walk) (value : String) : String × Walk :=
  let scan := Value.scan value
  let w := { w with log := w.log ++ scan.events value }
  let w :=
    if scan.unterminatedAt.isSome then
      { w with stats := { w.stats with unterminatedValues := w.stats.unterminatedValues + 1 } }
    else w
  let (edits, w) := w.edits value scan.references
  if edits.isEmpty then (value, w)
  else
    let rewritten := (Edit.applyAll? edits value).getD value
    let w := w.report (.valueRewritten value rewritten)
    (rewritten, { w with stats := { w.stats with valuesRewritten := w.stats.valuesRewritten + 1 } })

def declaration (w : Walk) (d : Declaration) : Declaration × Walk :=
  let w :=
    { w with stats := { w.stats with declarationsVisited := w.stats.declarationsVisited + 1 } }
  let (prop, w) := w.property d.prop
  let (value, w) := w.value d.value
  (⟨prop, value⟩, w)

def declarations (w : Walk) : List Declaration → List Declaration × Walk
  | [] => ([], w)
  | d :: rest =>
    let (d, w) := w.declaration d
    let (rest, w) := w.declarations rest
    (d :: rest, w)

def rules (w : Walk) : List Rule → List Rule × Walk
  | [] => ([], w)
  | r :: rest =>
    let w := { w with stats := { w.stats with rulesVisited := w.stats.rulesVisited + 1 } }
    let (ds, w) := w.declarations r.declarations
    let (rest, w) := w.rules rest
    (⟨r.selector, ds⟩ :: rest, w)

/-- The counters at the end of a walk. -/
def finalStats (w : Walk) : Stats :=
  { w.stats with
    namesDiscovered := w.resolver.count
    namesExcluded := w.resolver.excludedCount }

end Walk

/-- What a run over the rules of a stylesheet leaves behind. -/
structure Run where
  rules : List Rule
  map : RenamingMap
  stats : Stats
  log : List Log.Event

/-- One run over rules. Every run begins anew: no name it met is known to the next. -/
def Options.run (o : Options) (rules : List Rule) : Run :=
  let (renamed, w) := (Walk.start o).rules rules
  ⟨renamed, w.map, w.finalStats,
    .runBegun (o.describe true) :: (w.log.toList ++ [.runEnded w.finalStats])⟩

end CustomProps
