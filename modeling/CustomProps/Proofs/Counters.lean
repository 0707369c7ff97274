import CustomProps.Proofs.Growth
/-!
# What a run counts

The counters of a run are counts of what can be seen of it from outside: a property or a value is
counted exactly if it reads otherwise after the run, and a name exactly if it is met, once.
-/
namespace CustomProps

/-! ### Counters of parts of a walk -/

namespace Stats

theorem add_assoc (s t u : Stats) : s + t + u = s + (t + u) := by
  show add (add s t) u = add s (add t u)
  simp only [add, Nat.add_assoc]

/-- What a walk counts over declarations that become what `g` says. -/
def tally (g : Declaration → Declaration) (ds : List Declaration) : Stats :=
  { zero with
    declarationsVisited := ds.length
    propertiesRenamed := ds.countP fun d => (g d).prop != d.prop
    valuesRewritten := ds.countP fun d => (g d).value != d.value
    unterminatedValues := ds.countP fun d => (Value.scan d.value).unterminatedAt.isSome }

theorem tally_append (g : Declaration → Declaration) (ds es : List Declaration) :
    tally g (ds ++ es) = tally g ds + tally g es := by
  show _ = add _ _
  simp only [tally, add, zero, List.length_append, List.countP_append]

theorem tally_cons (g : Declaration → Declaration) (d : Declaration) (ds : List Declaration) :
    tally g (d :: ds) = tally g [d] + tally g ds :=
  tally_append g [d] ds

end Stats

namespace Walk

variable {o : Options} {w : Walk}

theorem stats_property (h : w.resolver.Faithful o) (prop : String) :
    (w.property prop).2.stats =
      { w.stats with
        propertiesRenamed :=
          w.stats.propertiesRenamed + if (w.property prop).1 != prop then 1 else 0 } := by
  have hchanged : (w.property prop).1 = prop ↔
      ∀ name ∈ (PropertyName.ofProp? prop).toList, o.target name = name := by
    rw [property_fst h, PropertyName.rename_eq_self_iff]
  have hcount : ((w.property prop).1 != prop) =
      (PropertyName.ofProp? prop).any fun name => o.target name != name := by
    rw [Bool.eq_iff_iff, bne_iff_ne, ne_eq, hchanged]
    cases PropertyName.ofProp? prop with
    | none => simp
    | some name => simp
  rw [hcount]
  unfold property
  cases hname : PropertyName.ofProp? prop with
  | none => rfl
  | some name =>
    dsimp only
    rw [meet_fst h, Options.changes_resolve, Option.any_some]
    cases o.target name != name with
    | true => rfl
    | false => rfl

theorem stats_edits (w : Walk) (value : String) (rs : List Value.Reference) :
    (w.edits value rs).2.stats = w.stats := by
  induction rs generalizing w with
  | nil => rfl
  | cons r rs ih =>
    have hrest : ((w.meet (r.nameIn value)).2.edits value rs).2.stats = w.stats :=
      ih (w.meet (r.nameIn value)).2
    unfold edits
    dsimp only
    split
    · exact hrest
    · exact hrest

theorem isEmpty_edits (h : w.resolver.Faithful o) (value : String) :
    (w.edits value (Value.scan value).references).1.isEmpty = ((w.value value).1 == value) := by
  rw [Bool.eq_iff_iff, beq_iff_eq,
    Value.rename?_eq_self_iff o.lengthens_target (value_fst h value), edits_fst h,
    List.isEmpty_iff, List.filter_eq_nil_iff, List.forall_mem_map, Value.Scan.names,
    List.forall_mem_map]
  refine forall₂_congr fun r _ => ?_
  simp [Value.Reference.nameIn]

theorem stats_value (h : w.resolver.Faithful o) (value : String) :
    (w.value value).2.stats =
      { w.stats with
        valuesRewritten := w.stats.valuesRewritten + if (w.value value).1 != value then 1 else 0
        unterminatedValues := w.stats.unterminatedValues +
          if (Value.scan value).unterminatedAt.isSome then 1 else 0 } := by
  have hscanned : (w.scanned value).resolver.Faithful o := h
  have hfst : ((w.scanned value).value value).1 = (w.value value).1 :=
    Option.some.inj ((value_fst hscanned value).symm.trans (value_fst h value))
  -- The counter asks whether an edit is queued; that is whether the text reads otherwise.
  have hempty := isEmpty_edits hscanned value
  have hstats := stats_edits (w.scanned value) value (Value.scan value).references
  rw [hfst] at hempty
  have hcount : ((w.value value).1 != value) =
      !((w.scanned value).edits value (Value.scan value).references).1.isEmpty := by
    rw [hempty]
    rfl
  rw [hcount, value_eq]
  dsimp only
  cases ((w.scanned value).edits value (Value.scan value).references).1.isEmpty with
  | true => exact hstats
  | false => exact congrArg (fun s : Stats => { s with valuesRewritten := s.valuesRewritten + 1 }) hstats

variable {g : Declaration → Declaration}

theorem stats_declaration (h : w.resolver.Faithful o) (hg : ∀ d, d.rename? o.target = some (g d))
    (d : Declaration) : (w.declaration d).2.stats = w.stats + Stats.tally g [d] := by
  let w₁ : Walk :=
    { w with stats := { w.stats with declarationsVisited := w.stats.declarationsVisited + 1 } }
  have h₁ : w₁.resolver.Faithful o := h
  have hstep : g d = ⟨(w₁.property d.prop).1, ((w₁.property d.prop).2.value d.value).1⟩ :=
    Option.some.inj ((hg d).symm.trans (declaration_fst h d))
  have hproperty := stats_property h₁ d.prop
  have hvalue := stats_value (faithful_property h₁ d.prop) d.value
  show ((w₁.property d.prop).2.value d.value).2.stats = Stats.add _ _
  rw [hvalue, hproperty]
  simp only [Stats.add, Stats.tally, Stats.zero, hstep, List.countP_singleton]
  rfl

theorem stats_declarations (h : w.resolver.Faithful o) (hg : ∀ d, d.rename? o.target = some (g d))
    (ds : List Declaration) : (w.declarations ds).2.stats = w.stats + Stats.tally g ds := by
  induction ds generalizing w with
  | nil => rfl
  | cons d ds ih =>
    have hrest := ih (faithful_declaration h d)
    show ((w.declaration d).2.declarations ds).2.stats = _
    rw [hrest, stats_declaration h hg, Stats.add_assoc, ← Stats.tally_cons]

theorem stats_rules (h : w.resolver.Faithful o) (hg : ∀ d, d.rename? o.target = some (g d))
    (rs : List Rule) :
    (w.rules rs).2.stats = w.stats +
      { Stats.tally g (rs.flatMap Rule.declarations) with rulesVisited := rs.length } := by
  induction rs generalizing w with
  | nil => rfl
  | cons r rs ih =>
    let w₁ : Walk := { w with stats := { w.stats with rulesVisited := w.stats.rulesVisited + 1 } }
    have h₁ : w₁.resolver.Faithful o := h
    have hdeclarations := stats_declarations h₁ hg r.declarations
    have hrest := ih (declarations_spec h₁ hg r.declarations).2
    show ((w₁.declarations r.declarations).2.rules rs).2.stats = Stats.add _ _
    rw [hrest, hdeclarations, List.flatMap_cons, Stats.tally_append]
    show Stats.add (Stats.add _ _) _ = Stats.add _ { Stats.add _ _ with rulesVisited := _ }
    simp only [Stats.add, Stats.tally, Stats.zero, List.length_cons, w₁]
    simp only [Nat.add_assoc, Nat.add_comm 1, Nat.zero_add]

end Walk

/-! ### Counters of a run -/

namespace Options

variable {o : Options} {g : Declaration → Declaration}

theorem zip_declarations_run (hg : ∀ d, d.rename? o.target = some (g d)) (rules : List Rule) :
    (rules.flatMap Rule.declarations).zip ((o.run rules).rules.flatMap Rule.declarations) =
      (rules.flatMap Rule.declarations).map fun d => (d, g d) := by
  have hafter : (o.run rules).rules.flatMap Rule.declarations =
      (rules.flatMap Rule.declarations).map g := by
    rw [rules_run_eq_map hg, List.flatMap_map, List.map_flatMap]
  rw [hafter]
  nth_rewrite 1 [← List.map_id (rules.flatMap Rule.declarations)]
  exact List.zip_map'

theorem stats_run_eq_tally (hg : ∀ d, d.rename? o.target = some (g d)) (rules : List Rule) :
    (o.run rules).stats =
      { Stats.tally g (rules.flatMap Rule.declarations) with
        rulesVisited := rules.length
        namesDiscovered := (discovered rules).length
        namesExcluded := (discovered rules).countP o.isExcluded } := by
  have hresolver := (Walk.knowledge_run o rules).resolver
  have hwalk := Walk.stats_rules (w := Walk.start o) (Resolver.faithful_new o) hg rules
  show { ((Walk.start o).rules rules).2.stats with
    namesDiscovered := ((Walk.start o).rules rules).2.knowledge.resolver.count
    namesExcluded := ((Walk.start o).rules rules).2.knowledge.resolver.excludedCount : Stats } = _
  rw [hresolver.count_eq, hresolver.excludedCount_eq, hwalk]
  show { Stats.add Stats.zero _ with namesDiscovered := _, namesExcluded := _ : Stats } = _
  simp only [Stats.add, Stats.tally, Stats.zero, Nat.zero_add]
  rfl

end Options

/-- A run counts all rules and declarations, the properties and values that read otherwise after it,
the values with a call that never closes, and the names that it discovers and those of them that
are excluded; the map that it delivers has all the others. -/
theorem stats_run (o : Options) (rules : List Rule) :
    let before := rules.flatMap Rule.declarations
    let after := (o.run rules).rules.flatMap Rule.declarations
    (o.run rules).rules.map (fun r => (r.selector, r.declarations.length)) =
        rules.map (fun r => (r.selector, r.declarations.length)) ∧
      (o.run rules).stats =
        { rulesVisited := rules.length
          declarationsVisited := before.length
          propertiesRenamed := (before.zip after).countP fun d => d.2.prop != d.1.prop
          valuesRewritten := (before.zip after).countP fun d => d.2.value != d.1.value
          namesDiscovered := (discovered rules).length
          namesExcluded := (discovered rules).countP o.isExcluded
          unterminatedValues :=
            before.countP fun d => (Value.scan d.value).unterminatedAt.isSome } ∧
      (o.run rules).stats.namesExcluded ≤ (o.run rules).stats.namesDiscovered ∧
      (o.run rules).stats.namesDiscovered - (o.run rules).stats.namesExcluded =
        (o.run rules).map.size := by
  intro before after
  obtain ⟨g, hg⟩ := Declaration.exists_rename o.target
  have hstats := Options.stats_run_eq_tally hg rules
  have hpairs : before.zip after = before.map fun d => (d, g d) :=
    Options.zip_declarations_run hg rules
  have hlength : (discovered rules).length =
      (discovered rules).countP o.isExcluded + (o.run rules).map.size :=
    (Walk.knowledge_run o rules).length_eq
  refine ⟨?_, ?_, ?_, ?_⟩
  · rw [Options.rules_run_eq_map hg, List.map_map]
    refine List.map_congr_left fun r _ => ?_
    simp
  · rw [hstats, hpairs, List.countP_map, List.countP_map]
    rfl
  · rw [hstats]
    exact List.countP_le_length
  · rw [hstats]
    dsimp only
    omega

end CustomProps
