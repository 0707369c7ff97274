import CustomProps.Proofs.Discovery
/-!
# The names that a walk resolves

What a walk remembers does not show how often it has resolved a name. A diary is a walk that writes
down every name at the moment it resolves it. Without the notes it is the walk; with them it shows
that a walk resolves the names that the declarations carry, each time they occur, and no others.
-/
namespace CustomProps

structure Diary where
  walk : Walk
  resolved : List String

namespace Diary

def start (o : Options) : Diary := ⟨.start o, []⟩

/-- All that a walk does besides resolving names. -/
def pass (t : Diary) (f : Walk → Walk) : Diary := ⟨f t.walk, t.resolved⟩

def meet (t : Diary) (name : String) : Resolution × Diary :=
  let (resolution, walk) := t.walk.meet name
  (resolution, ⟨walk, t.resolved ++ [name]⟩)

def property (t : Diary) (prop : String) : String × Diary :=
  match PropertyName.ofProp? prop with
  | none => (prop, t)
  | some name =>
    let (resolution, t) := t.meet name
    if resolution.changes name then
      let renamed := PropertyName.rewriteProp prop resolution.renamed
      let t := t.pass fun w => w.report (.propertyRenamed prop renamed)
      (renamed, t.pass fun w =>
        { w with stats := { w.stats with propertiesRenamed := w.stats.propertiesRenamed + 1 } })
    else (prop, t)

def edits (t : Diary) (value : String) : List Value.Reference → List Edit × Diary
  | [] => ([], t)
  | r :: rest =>
    let name := r.nameIn value
    let (resolution, t) := t.meet name
    let (later, t) := t.edits value rest
    (if resolution.changes name then (⟨r.name, resolution.renamed⟩ :: later, t) else (later, t))

def value (t : Diary) (value : String) : String × Diary :=
  let scan := Value.scan value
  let t := t.pass fun w => { w with log := w.log ++ scan.events value }
  let t :=
    if scan.unterminatedAt.isSome then
      t.pass fun w =>
        { w with stats := { w.stats with unterminatedValues := w.stats.unterminatedValues + 1 } }
    else t
  let (edits, t) := t.edits value scan.references
  if edits.isEmpty then (value, t)
  else
    let rewritten := (Edit.applyAll? edits value).getD value
    let t := t.pass fun w => w.report (.valueRewritten value rewritten)
    (rewritten, t.pass fun w =>
      { w with stats := { w.stats with valuesRewritten := w.stats.valuesRewritten + 1 } })

def declaration (t : Diary) (d : Declaration) : Declaration × Diary :=
  let t := t.pass fun w =>
    { w with stats := { w.stats with declarationsVisited := w.stats.declarationsVisited + 1 } }
  let (prop, t) := t.property d.prop
  let (value, t) := t.value d.value
  (⟨prop, value⟩, t)

def declarations (t : Diary) : List Declaration → List Declaration × Diary
  | [] => ([], t)
  | d :: rest =>
    let (d, t) := t.declaration d
    let (rest, t) := t.declarations rest
    (d :: rest, t)

def rules (t : Diary) : List Rule → List Rule × Diary
  | [] => ([], t)
  | r :: rest =>
    let t := t.pass fun w =>
      { w with stats := { w.stats with rulesVisited := w.stats.rulesVisited + 1 } }
    let (ds, t) := t.declarations r.declarations
    let (rest, t) := t.rules rest
    (⟨r.selector, ds⟩ :: rest, t)

/-! ### Diaries and walks -/

/-- What a diary makes of the step of a walk that resolves the given names. -/
def noting {α : Type} (t : Diary) (step : α × Walk) (names : List String) : α × Diary :=
  (step.1, ⟨step.2, t.resolved ++ names⟩)

theorem property_eq (t : Diary) (prop : String) :
    t.property prop = t.noting (t.walk.property prop) (PropertyName.ofProp? prop).toList := by
  unfold property Walk.property
  cases PropertyName.ofProp? prop with
  | none => simp [noting]
  | some name =>
    dsimp only [meet]
    split
    · rfl
    · rfl

theorem edits_eq (t : Diary) (value : String) (rs : List Value.Reference) :
    t.edits value rs = t.noting (t.walk.edits value rs) (rs.map (·.nameIn value)) := by
  induction rs generalizing t with
  | nil => simp [edits, Walk.edits, noting]
  | cons r rs ih =>
    have hrest := ih (t.meet (r.nameIn value)).2
    unfold edits Walk.edits
    dsimp only
    rw [hrest, List.map_cons]
    simp only [noting, meet, List.append_assoc, List.singleton_append]
    split
    · rfl
    · rfl

theorem value_eq (t : Diary) (value : String) :
    t.value value = t.noting (t.walk.value value) ((Value.scan value).names value) := by
  unfold Diary.value Walk.value
  dsimp only
  generalize ht : (if (Value.scan value).unterminatedAt.isSome = true then _ else _ : Diary) = t₁
  generalize hw : (if (Value.scan value).unterminatedAt.isSome = true then _ else _ : Walk) = w₁
  have hnotes : t₁ = ⟨w₁, t.resolved⟩ := by
    rw [← ht, ← hw]
    split
    · rfl
    · rfl
  rw [hnotes, edits_eq]
  obtain ⟨edits, w₂⟩ := w₁.edits value (Value.scan value).references
  cases edits with
  | nil => rfl
  | cons e edits => rfl

theorem declaration_eq (t : Diary) (d : Declaration) :
    t.declaration d = t.noting (t.walk.declaration d) d.occurrences := by
  unfold declaration Walk.declaration
  dsimp only
  rw [property_eq, value_eq]
  simp only [noting, pass, Declaration.occurrences, List.append_assoc]

theorem declarations_eq (t : Diary) (ds : List Declaration) :
    t.declarations ds = t.noting (t.walk.declarations ds) (ds.flatMap Declaration.occurrences) := by
  induction ds generalizing t with
  | nil => simp [declarations, Walk.declarations, noting]
  | cons d ds ih =>
    unfold declarations Walk.declarations
    dsimp only
    rw [declaration_eq, ih]
    simp only [noting, List.flatMap_cons, List.append_assoc]

theorem rules_eq (t : Diary) (rs : List Rule) :
    t.rules rs = t.noting (t.walk.rules rs) (occurrences rs) := by
  induction rs generalizing t with
  | nil => simp [rules, Walk.rules, noting, occurrences]
  | cons r rs ih =>
    unfold rules Walk.rules
    dsimp only
    rw [declarations_eq, ih]
    simp only [noting, pass, occurrences_cons, List.append_assoc]

end Diary
end CustomProps
