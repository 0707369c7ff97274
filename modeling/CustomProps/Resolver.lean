import Std.Data.HashMap
import CustomProps.Options
import CustomProps.RenamingMap
/-!
What names are renamed to in one run. Every name is worked out once and remembered, so exclusions
are tested once for each name.
-/
namespace CustomProps

/-- What becomes of a name. An excluded name keeps its text. -/
structure Resolution where
  renamed : String
  excluded : Bool
deriving DecidableEq, Repr, Inhabited

/-- The text has to change where the name stands. -/
def Resolution.changes (r : Resolution) (name : String) : Bool := !r.excluded && r.renamed != name

/-- What becomes of a name under given options. -/
def Options.resolve (o : Options) (name : String) : Resolution :=
  if o.isExcluded name then ⟨name, true⟩ else ⟨o.decorate name, false⟩

/-- Enters a name in a renaming map, unless it is excluded or has an entry already. -/
def RenamingMap.record (m : RenamingMap) (name : String) (r : Resolution) : RenamingMap :=
  if r.excluded then m else m.insert name r.renamed

/-- The options of a run and what its names have been resolved to so far. -/
structure Resolver where
  options : Options
  cache : Std.HashMap String Resolution

namespace Resolver

def new (o : Options) : Resolver := ⟨o, ∅⟩

/-- The name has been resolved before. -/
def knows (r : Resolver) (name : String) : Bool := r.cache.contains name

/-- What becomes of a name, and the resolver that remembers it. -/
def resolve (r : Resolver) (name : String) : Resolution × Resolver :=
  match r.cache[name]? with
  | some resolution => (resolution, r)
  | none =>
    let resolution := r.options.resolve name
    (resolution, { r with cache := r.cache.insert name resolution })

/-- How many names have been resolved. -/
def count (r : Resolver) : Nat := r.cache.size

/-- How many of them are excluded. -/
def excludedCount (r : Resolver) : Nat := r.cache.toList.countP fun e => e.2.excluded

end Resolver
end CustomProps
