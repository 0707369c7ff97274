/-!
Names of custom properties. A property whose name begins with two dashes is a custom property; what
follows the dashes is the name under which it is declared and referenced. Two dashes alone name
nothing.
-/
namespace CustomProps.PropertyName

/-- What the name of a custom property begins with. -/
def marker : String := "--"

/-- The name that a property declares, if it is a custom property. -/
def ofProp? (prop : String) : Option String :=
  match prop.toList with
  | '-' :: '-' :: c :: cs => some (String.ofList (c :: cs))
  | _ => none

/-- The property with `renamed` in the place of its name. A property without the marker has no name
to replace. -/
def rewriteProp (prop renamed : String) : String :=
  match prop.toList with
  | '-' :: '-' :: _ => marker ++ renamed
  | _ => prop

/-- `name` without the markers in front of it, however many there are. -/
def stripMarkers (name : String) : String := String.ofList (strip name.toList)
where
  strip : List Char → List Char
    | '-' :: '-' :: cs => strip cs
    | cs => cs

theorem ofProp?_marker_append {name : String} (h : name ≠ "") :
    ofProp? (marker ++ name) = some name := by
  have hl : (marker ++ name).toList = '-' :: '-' :: name.toList := by
    simp [marker, String.toList_append]
  unfold ofProp?
  rw [hl]
  cases hn : name.toList with
  | nil => exact absurd (String.toList_eq_nil_iff.mp hn) h
  | cons c cs =>
    simp only [Option.some.injEq]
    rw [← hn, String.ofList_toList]

end CustomProps.PropertyName
