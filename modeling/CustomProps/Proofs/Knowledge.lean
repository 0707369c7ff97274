import CustomProps.Proofs.RenamingMap
import CustomProps.Proofs.Resolver
import CustomProps.Walk
/-!
# What a walk knows of names

A walk meets the names that declarations carry one after the other. What it knows of names in the
end, the resolver as well as the map, follows from this sequence alone: the rest of the walk leaves
both as they are.
-/
namespace CustomProps

/-! ### Names met one after the other -/

/-- The names that a declaration carries: the one it declares and those its value refers to. -/
def Declaration.occurrences (d : Declaration) : List String :=
  (PropertyName.ofProp? d.prop).toList ++ (Value.scan d.value).names d.value

/-- The names that rules carry, in document order. -/
def occurrences (rules : List Rule) : List String :=
  rules.flatMap fun r => r.declarations.flatMap Declaration.occurrences

theorem occurrences_cons (r : Rule) (rs : List Rule) :
    occurrences (r :: rs) = r.declarations.flatMap Declaration.occurrences ++ occurrences rs :=
  List.flatMap_cons

structure Knowledge where
  resolver : Resolver
  map : RenamingMap

namespace Knowledge

def start (o : Options) : Knowledge := ⟨.new o, .empty⟩

def meet (k : Knowledge) (name : String) : Knowledge :=
  ⟨(k.resolver.resolve name).2, k.map.record name (k.resolver.resolve name).1⟩

def meetAll (k : Knowledge) (names : List String) : Knowledge := names.foldl meet k

theorem meetAll_append (k : Knowledge) (names more : List String) :
    k.meetAll (names ++ more) = (k.meetAll names).meetAll more :=
  List.foldl_append

theorem faithful_meetAll {o : Options} {k : Knowledge} (h : k.resolver.Faithful o)
    (names : List String) : (k.meetAll names).resolver.Faithful o := by
  induction names generalizing k with
  | nil => exact h
  | cons name names ih => exact ih (k := k.meet name) (h.resolve_snd name)

end Knowledge

namespace Walk

def knowledge (w : Walk) : Knowledge := ⟨w.resolver, w.map⟩

theorem knowledge_start (o : Options) : (start o).knowledge = .start o := rfl

theorem knowledge_meet (w : Walk) (name : String) :
    (w.meet name).2.knowledge = w.knowledge.meet name := rfl

theorem knowledge_property (w : Walk) (prop : String) :
    (w.property prop).2.knowledge = w.knowledge.meetAll (PropertyName.ofProp? prop).toList := by
  unfold property
  split
  · rename_i hnone
    rw [hnone]
    rfl
  · rename_i name hname
    rw [hname]
    dsimp only
    split
    · exact knowledge_meet w name
    · exact knowledge_meet w name

theorem knowledge_edits (w : Walk) (value : String) (rs : List Value.Reference) :
    (w.edits value rs).2.knowledge = w.knowledge.meetAll (rs.map (·.nameIn value)) := by
  induction rs generalizing w with
  | nil => rfl
  | cons r rs ih =>
    have hrest := ih (w.meet (r.nameIn value)).2
    unfold edits
    dsimp only
    split
    · exact hrest
    · exact hrest

/-- The walk once a value has been scanned, before any name of it is met. -/
def scanned (w : Walk) (value : String) : Walk :=
  { w with
    stats :=
      { w.stats with
        unterminatedValues := w.stats.unterminatedValues +
          if (Value.scan value).unterminatedAt.isSome then 1 else 0 }
    log := w.log ++ (Value.scan value).events value }

theorem value_eq (w : Walk) (value : String) :
    w.value value =
      let (edits, w) := (w.scanned value).edits value (Value.scan value).references
      if edits.isEmpty then (value, w)
      else
        let rewritten := (Edit.applyAll? edits value).getD value
        let w := w.report (.valueRewritten value rewritten)
        (rewritten, { w with
          stats := { w.stats with valuesRewritten := w.stats.valuesRewritten + 1 } }) := by
  have hscanned : w.scanned value =
      if (Value.scan value).unterminatedAt.isSome then
        { w with
          stats := { w.stats with unterminatedValues := w.stats.unterminatedValues + 1 }
          log := w.log ++ (Value.scan value).events value }
      else { w with log := w.log ++ (Value.scan value).events value } := by
    unfold scanned
    split
    · rfl
    · rfl
  rw [hscanned]
  rfl

theorem knowledge_value (w : Walk) (value : String) :
    (w.value value).2.knowledge = w.knowledge.meetAll ((Value.scan value).names value) := by
  have hedits := knowledge_edits (w.scanned value) value (Value.scan value).references
  rw [value_eq]
  dsimp only
  split
  · exact hedits
  · exact hedits

theorem knowledge_declaration (w : Walk) (d : Declaration) :
    (w.declaration d).2.knowledge = w.knowledge.meetAll d.occurrences := by
  let w₁ : Walk :=
    { w with stats := { w.stats with declarationsVisited := w.stats.declarationsVisited + 1 } }
  have hproperty : (w₁.property d.prop).2.knowledge =
      w.knowledge.meetAll (PropertyName.ofProp? d.prop).toList := knowledge_property w₁ d.prop
  show ((w₁.property d.prop).2.value d.value).2.knowledge = _
  rw [knowledge_value, hproperty, Declaration.occurrences, Knowledge.meetAll_append]

theorem knowledge_declarations (w : Walk) (ds : List Declaration) :
    (w.declarations ds).2.knowledge = w.knowledge.meetAll (ds.flatMap Declaration.occurrences) := by
  induction ds generalizing w with
  | nil => rfl
  | cons d ds ih =>
    show ((w.declaration d).2.declarations ds).2.knowledge = _
    rw [ih, knowledge_declaration, List.flatMap_cons, Knowledge.meetAll_append]

theorem knowledge_rules (w : Walk) (rs : List Rule) :
    (w.rules rs).2.knowledge = w.knowledge.meetAll (occurrences rs) := by
  induction rs generalizing w with
  | nil => rfl
  | cons r rs ih =>
    let w₁ : Walk := { w with stats := { w.stats with rulesVisited := w.stats.rulesVisited + 1 } }
    have hdeclarations : (w₁.declarations r.declarations).2.knowledge =
        w.knowledge.meetAll (r.declarations.flatMap Declaration.occurrences) :=
      knowledge_declarations w₁ r.declarations
    show ((w₁.declarations r.declarations).2.rules rs).2.knowledge = _
    rw [ih, hdeclarations, ← Knowledge.meetAll_append, occurrences_cons]

end Walk

/-! ### What is known after some names -/

/-- The entries of the map once the given names have been met. -/
def Options.entries (o : Options) (names : List String) : List (String × String) :=
  (names.eraseDups.filter fun name => !o.isExcluded name).map fun name => (name, o.decorate name)

theorem Options.map_fst_entries (o : Options) (names : List String) :
    (o.entries names).map Prod.fst = names.eraseDups.filter fun name => !o.isExcluded name := by
  rw [entries, List.map_map]
  exact List.map_id _

theorem Options.entries_concat (o : Options) (names : List String) (name : String) :
    o.entries (names ++ [name]) =
      if name ∈ names ∨ o.isExcluded name = true then o.entries names
      else o.entries names ++ [(name, o.decorate name)] := by
  unfold entries
  rw [eraseDups_concat]
  by_cases hmem : name ∈ names
  · simp [hmem]
  · cases hx : o.isExcluded name with
    | true => simp [hmem, hx]
    | false => simp [hmem, hx]

/-- All that is known once the names have been met, in this order. -/
structure Knowledge.Of (o : Options) (names : List String) (k : Knowledge) : Prop where
  resolver : k.resolver.Remembers o names
  indexed : k.map.Indexed
  toList : k.map.toList = o.entries names

namespace Knowledge

variable {o : Options} {names : List String} {k : Knowledge}

theorem of_start (o : Options) : (start o).Of o [] where
  resolver := Resolver.remembers_new o
  indexed := RenamingMap.indexed_empty
  toList := rfl

theorem Of.keys_eq (h : k.Of o names) :
    k.map.keys = names.eraseDups.filter fun name => !o.isExcluded name := by
  rw [RenamingMap.keys, h.toList, Options.map_fst_entries]

theorem Of.mem_keys (h : k.Of o names) {name : String} :
    name ∈ k.map.keys ↔ name ∈ names ∧ o.isExcluded name = false := by
  rw [h.keys_eq, List.mem_filter, List.mem_eraseDups, Bool.not_eq_true']

theorem Of.length_eq (h : k.Of o names) :
    names.eraseDups.length = names.eraseDups.countP o.isExcluded + k.map.size := by
  have hsplit := List.length_eq_countP_add_countP o.isExcluded (l := names.eraseDups)
  rw [← RenamingMap.length_keys, h.keys_eq, ← List.countP_eq_length_filter]
  simpa using hsplit

theorem Of.meet (h : k.Of o names) (name : String) : (k.meet name).Of o (names ++ [name]) := by
  have hresolution : (k.resolver.resolve name).1 = o.resolve name :=
    h.resolver.faithful.resolve_fst name
  have hmap : (k.meet name).map = k.map.record name (o.resolve name) := by
    rw [Knowledge.meet, hresolution]
  refine ⟨h.resolver.resolve name, ?_, ?_⟩
  · rw [hmap, RenamingMap.record]
    split
    · exact h.indexed
    · exact h.indexed.insert name _
  · rw [hmap, RenamingMap.record, Options.excluded_resolve, Options.entries_concat]
    cases hx : o.isExcluded name with
    | true => simp [h.toList]
    | false =>
      have hcontains : k.map.contains name = true ↔ name ∈ names := by
        simp [h.indexed.contains_iff, h.mem_keys, hx]
      simp [RenamingMap.toList_insert, hcontains, h.toList, Options.renamed_resolve,
        Options.target_of_not_isExcluded hx]

theorem Of.meetAll (h : k.Of o names) (more : List String) :
    (k.meetAll more).Of o (names ++ more) := by
  induction more generalizing names k with
  | nil =>
    rw [List.append_nil]
    exact h
  | cons name more ih =>
    have hrest := ih (h.meet name)
    rw [List.append_assoc] at hrest
    exact hrest

end Knowledge

theorem Walk.knowledge_run (o : Options) (rules : List Rule) :
    ((Walk.start o).rules rules).2.knowledge.Of o (occurrences rules) := by
  rw [Walk.knowledge_rules, Walk.knowledge_start]
  exact (Knowledge.of_start o).meetAll (occurrences rules)

end CustomProps
