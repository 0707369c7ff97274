import CustomProps.Proofs.Rescan
/-!
# What a run leaves in the place of a name

A run writes every new name where the old one stood, moved by what the names before it have grown.
This holds under all options. It is another question under which name a scan finds the place then: a
leading text with marks in it can cut a name short.
-/
namespace CustomProps

/-- Where a range of a value comes to lie when `f` of every name takes the place of the name. -/
def Value.movedSpan (f : String → String) (value : String) (r : Span) : Span :=
  ⟨(moved f value r.start).toNat, (moved f value r.stop).toNat⟩

/-- The names that a declaration `d` carries, each with the text of `d'` in its place. -/
def Declaration.carried (f : String → String) (d d' : Declaration) : List (String × Option String) :=
  ((PropertyName.ofProp? d.prop).map fun name => (name, PropertyName.ofProp? d'.prop)).toList ++
    (Value.scan d.value).references.map fun r =>
      (r.nameIn d.value, (Value.movedSpan f d.value r.name).slice? d'.value)

/-- The names that rules carry, each with the text that a run leaves in its place. -/
def Options.carried (o : Options) (rules : List Rule) : List (String × Option String) :=
  (rules.zip (o.run rules).rules).flatMap fun r =>
    (r.1.declarations.zip r.2.declarations).flatMap fun d => d.1.carried o.target d.2

namespace Value

variable {f : String → String} {value value' : String}

theorem moved_eq_add_shift (x : Nat) : moved f value x = x + Edit.shift (renames f value) x := by
  rw [moved, Edit.shift, renames, List.filter_map, List.map_map]
  refine congrArg (fun l => (x : Int) + List.sum l) (List.map_congr_left fun r hr => ?_)
  exact (growth_reference (List.mem_of_mem_filter hr) (f (r.nameIn value))).symm

theorem slice?_movedSpan (h : rename? f value = some value') {r : Reference}
    (hr : r ∈ (scan value).references) :
    (movedSpan f value r.name).slice? value' = some (f (r.nameIn value)) := by
  have hasc : Span.Ascending 0 value.utf8ByteSize ((renames f value).map Edit.span) := by
    rw [renames, List.map_map]
    exact ascending_names value
  obtain ⟨i, j, hi, hj, hslice⟩ := Edit.slice?_of_weave? h hasc (List.mem_map_of_mem hr)
  have hstart : (moved f value r.name.start).toNat = i := by
    rw [moved_eq_add_shift]
    dsimp only at hi
    omega
  have hstop : (moved f value r.name.stop).toNat = j := by
    rw [moved_eq_add_shift]
    dsimp only at hj
    omega
  rw [movedSpan, hstart, hstop]
  exact hslice

end Value

theorem Declaration.carried_rename? {f : String → String} (hf : ∀ name, name ≠ "" → f name ≠ "")
    {d d' : Declaration} (h : d.rename? f = some d') :
    d.carried f d' = d.occurrences.map fun name => (name, some (f name)) := by
  obtain ⟨value, hvalue, rfl⟩ := Option.map_eq_some_iff.mp h
  rw [carried, occurrences, List.map_append, PropertyName.ofProp?_rename hf, Value.Scan.names,
    List.map_map]
  refine congrArg₂ (· ++ ·) ?_ (List.map_congr_left fun r hr => ?_)
  · cases PropertyName.ofProp? d.prop with
    | none => rfl
    | some name => rfl
  · rw [Value.slice?_movedSpan hvalue hr]
    rfl

theorem Options.carried_eq (o : Options) (rules : List Rule) :
    o.carried rules = (occurrences rules).map fun name => (name, some (o.target name)) := by
  obtain ⟨g, hg⟩ := Declaration.exists_rename o.target
  have hrules := Options.rules_run_eq_map hg rules
  have hdeclarations : ∀ ds : List Declaration,
      ((ds.zip (ds.map g)).flatMap fun d => d.1.carried o.target d.2) =
        (ds.flatMap Declaration.occurrences).map fun name => (name, some (o.target name)) := by
    intro ds
    induction ds with
    | nil => rfl
    | cons d ds ih =>
      rw [List.map_cons, List.zip_cons_cons, List.flatMap_cons, List.flatMap_cons, List.map_append,
        ih, Declaration.carried_rename? (fun _ => o.target_ne_empty) (hg d)]
  rw [carried, hrules]
  clear hrules
  induction rules with
  | nil => rfl
  | cons r rules ih =>
    rw [List.map_cons, List.zip_cons_cons, List.flatMap_cons, ih, hdeclarations, occurrences,
      occurrences, List.flatMap_cons, List.map_append]

end CustomProps
