import Std.Data.HashMap
import CustomProps.Json.Printer
/-!
The map from names to what they are renamed to, in the order in which the names were first met. An
index beside the entries says where each name stands; the first entry of a name keeps its place and
its value.
-/
namespace CustomProps

structure RenamingMap where
  entries : Array (String × String)
  index : Std.HashMap String Nat

namespace RenamingMap

def empty : RenamingMap := ⟨#[], ∅⟩

instance : Inhabited RenamingMap := ⟨empty⟩

def contains (m : RenamingMap) (name : String) : Bool := m.index.contains name

/-- Adds an entry at the end unless the name is there already, and says whether it did. -/
def add (m : RenamingMap) (name renamed : String) : Bool × RenamingMap :=
  if m.contains name then (false, m)
  else (true, ⟨m.entries.push (name, renamed), m.index.insert name m.entries.size⟩)

/-- The map after an entry has been offered to it. -/
def insert (m : RenamingMap) (name renamed : String) : RenamingMap := (m.add name renamed).2

/-- What `name` is renamed to. -/
def get? (m : RenamingMap) (name : String) : Option String :=
  m.index[name]?.bind fun i => m.entries[i]?.map Prod.snd

def size (m : RenamingMap) : Nat := m.entries.size

def isEmpty (m : RenamingMap) : Bool := m.entries.isEmpty

/-- The names and what they are renamed to, in order. -/
def toList (m : RenamingMap) : List (String × String) := m.entries.toList

/-- The names in order. -/
def keys (m : RenamingMap) : List String := m.toList.map Prod.fst

def toJson (m : RenamingMap) : Json :=
  .ofMembers (m.toList.map fun (name, renamed) => (name, .ofString renamed))

/-- The JSON text of the map, one entry a line. -/
def print (m : RenamingMap) : String := m.toJson.pretty

@[simp]
theorem toList_empty : empty.toList = [] := rfl

theorem toList_insert (m : RenamingMap) (name renamed : String) :
    (m.insert name renamed).toList =
      if m.contains name then m.toList else m.toList ++ [(name, renamed)] := by
  unfold insert add
  split <;> simp [toList]

end RenamingMap
end CustomProps
