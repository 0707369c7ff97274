import CustomProps.Proofs.Counters
/-!
# One run after the other

A run over what a run has left meets the names that the other one wrote, in the same order and at the
same places. So the maps of several runs fit together, each beginning with the names that the one
before it ends with, and every run counts the same.
-/
namespace CustomProps

namespace Options

/-- The rules after so many runs, each over what the one before it has left. -/
def passed (o : Options) (rules : List Rule) : Nat → List Rule
  | 0 => rules
  | k + 1 => (o.run (o.passed rules k)).rules

/-- The run that has so many runs before it. -/
def pass (o : Options) (rules : List Rule) (k : Nat) : Run := o.run (o.passed rules k)

/-- What a name becomes when the maps of the first `k` runs are looked up one after the other. -/
def followed (o : Options) (rules : List Rule) (k : Nat) (name : String) : Option String :=
  (List.range k).foldlM (fun name i => (o.pass rules i).map.get? name) name

end Options

namespace Options

variable {o : Options}

/-! ### Names after a run -/

theorem isExcluded_of_nil (hx : o.except = []) (name : String) : o.isExcluded name = false := by
  rw [isExcluded, hx]
  rfl

theorem target_of_nil (hx : o.except = []) : o.target = o.decorate := by
  funext name
  exact target_of_not_isExcluded (isExcluded_of_nil hx name)

theorem discovered_run (ho : o.LeadsPlainly) (hx : o.except = []) (rules : List Rule) :
    discovered (o.run rules).rules = (discovered rules).map o.decorate := by
  rw [discovered, occurrences_run ho, target_of_nil hx]
  exact eraseDups_map (fun _ _ => decorate_injective) _

/-! ### Maps -/

theorem toList_map_run (hx : o.except = []) (rules : List Rule) :
    (o.run rules).map.toList = (discovered rules).map fun name => (name, o.decorate name) := by
  have hentries : (o.run rules).map.toList = o.entries (occurrences rules) :=
    (Walk.knowledge_run o rules).toList
  have hall : (discovered rules).filter (fun name => !o.isExcluded name) = discovered rules :=
    List.filter_eq_self.mpr fun name _ => by rw [isExcluded_of_nil hx]; rfl
  rw [hentries, entries, ← discovered, hall]

theorem get?_map_run (hx : o.except = []) {rules : List Rule} {name : String}
    (h : name ∈ discovered rules) : (o.run rules).map.get? name = some (o.decorate name) := by
  have hindexed : (o.run rules).map.Indexed := (Walk.knowledge_run o rules).indexed
  rw [hindexed.get?_eq_some_iff, toList_map_run hx]
  exact List.mem_map_of_mem h

/-! ### Counters -/

/-- A name that has been decorated stays as it is exactly if it did so before. -/
theorem forall_target_map_iff (hx : o.except = []) (names : List String) :
    (∀ name ∈ names.map o.target, o.target name = name) ↔
      ∀ name ∈ names, o.target name = name := by
  simp only [target_eq_self_iff, isExcluded_of_nil hx, Bool.false_eq_true, or_false]
  cases names with
  | nil => simp
  | cons name names => simp

theorem tally_map (ho : o.LeadsPlainly) (hx : o.except = []) {g : Declaration → Declaration}
    (hg : ∀ d, d.rename? o.target = some (g d)) (ds : List Declaration) :
    Stats.tally g (ds.map g) = Stats.tally g ds := by
  -- Whether a declaration changes hangs on its names, and decorating them does not change that.
  have hstep : ∀ d, ∃ value, Value.rename? o.target d.value = some value ∧
      g d = ⟨PropertyName.rename o.target d.prop, value⟩ := by
    intro d
    obtain ⟨value, hvalue, hd⟩ := Option.map_eq_some_iff.mp (hg d)
    exact ⟨value, hvalue, hd.symm⟩
  have hprop : ∀ d, (g (g d)).prop = (g d).prop ↔ (g d).prop = d.prop := by
    intro d
    obtain ⟨_, -, hd⟩ := hstep d
    obtain ⟨_, -, hdd⟩ := hstep (g d)
    rw [hdd, hd]
    dsimp only
    rw [PropertyName.rename_eq_self_iff, PropertyName.rename_eq_self_iff,
      PropertyName.ofProp?_rename (fun _ => o.target_ne_empty), Option.toList_map,
      forall_target_map_iff hx]
  have hvalue : ∀ d, (g (g d)).value = (g d).value ↔ (g d).value = d.value := by
    intro d
    obtain ⟨value, hv, hd⟩ := hstep d
    obtain ⟨value', hv', hdd⟩ := hstep (g d)
    rw [hd] at hv'
    rw [hdd, hd]
    dsimp only at hv' ⊢
    rw [Value.rename?_eq_self_iff o.lengthens_target hv',
      Value.rename?_eq_self_iff o.lengthens_target hv,
      (Value.rescans_rename? (sound_rename_target ho) hv).names, forall_target_map_iff hx]
  have hcut : ∀ d, (Value.scan (g d).value).unterminatedAt.isSome =
      (Value.scan d.value).unterminatedAt.isSome := by
    intro d
    obtain ⟨value, hv, hd⟩ := hstep d
    rw [hd]
    exact Value.isSome_of_rel (Value.rescans_rename? (sound_rename_target ho) hv).unterminatedAt
  simp only [Stats.tally, List.length_map, List.countP_map, Function.comp_def, hcut]
  congr 1
  · refine List.countP_congr fun d _ => ?_
    simp [hprop]
  · refine List.countP_congr fun d _ => ?_
    simp [hvalue]

theorem stats_run_run (ho : o.LeadsPlainly) (hx : o.except = []) (rules : List Rule) :
    (o.run (o.run rules).rules).stats = (o.run rules).stats := by
  obtain ⟨g, hg⟩ := Declaration.exists_rename o.target
  have hnone : ∀ names : List String, names.countP o.isExcluded = 0 := fun names =>
    List.countP_eq_zero.mpr fun name _ => by simp [isExcluded_of_nil hx]
  have hds : (o.run rules).rules.flatMap Rule.declarations =
      (rules.flatMap Rule.declarations).map g := by
    rw [rules_run_eq_map hg, List.flatMap_map, List.map_flatMap]
  have hlength : (o.run rules).rules.length = rules.length := by
    rw [rules_run_eq_map hg, List.length_map]
  rw [stats_run_eq_tally hg, stats_run_eq_tally hg, hds, tally_map ho hx hg, hlength,
    discovered_run ho hx, List.length_map, hnone, hnone]

/-! ### Passes -/

theorem discovered_passed (ho : o.LeadsPlainly) (hx : o.except = []) (rules : List Rule) (k : Nat) :
    discovered (o.passed rules k) = (discovered rules).map o.decorate^[k] := by
  induction k with
  | zero => exact (List.map_id _).symm
  | succ k ih =>
    rw [passed, discovered_run ho hx, ih, List.map_map, Function.iterate_succ']

theorem followed_succ (rules : List Rule) (k : Nat) (name : String) :
    o.followed rules (k + 1) name =
      (o.followed rules k name).bind fun name => (o.pass rules k).map.get? name := by
  rw [followed, List.range_succ, List.foldlM_append]
  refine congrArg (Option.bind (o.followed rules k name)) (funext fun name => ?_)
  exact bind_pure _

end Options

/-- Runs that follow each other under a leading text without marks, and that exclude nothing: the map
of each has for its keys what the map before it renames to, in the same order; all of them count the
same; and through the maps of so many runs every name becomes the name decorated so many times. -/
theorem chained_passes {o : Options} (ho : o.LeadsPlainly) (hx : o.except = [])
    (rules : List Rule) :
    (∀ i, (o.pass rules (i + 1)).map.keys = (o.pass rules i).map.toList.map Prod.snd) ∧
      (∀ i, (o.pass rules i).stats = (o.pass rules 0).stats) ∧
      (o.pass rules 0).map.keys = discovered rules ∧
      ∀ k, ∀ name ∈ discovered rules, o.followed rules k name = some (o.decorate^[k] name) := by
  refine ⟨?_, ?_, ?_, ?_⟩
  · intro i
    rw [RenamingMap.keys, Options.pass, Options.pass, Options.toList_map_run hx,
      Options.toList_map_run hx, List.map_map, List.map_map, Options.passed,
      Options.discovered_run ho hx]
    exact List.map_id _
  · intro i
    induction i with
    | zero => rfl
    | succ i ih => exact (Options.stats_run_run ho hx _).trans ih
  · rw [RenamingMap.keys, Options.pass, Options.toList_map_run hx, List.map_map]
    exact List.map_id _
  · intro k name hname
    induction k with
    | zero => rfl
    | succ k ih =>
      have hmet : o.decorate^[k] name ∈ discovered (o.passed rules k) := by
        rw [Options.discovered_passed ho hx]
        exact List.mem_map_of_mem hname
      rw [Options.followed_succ, ih, Option.bind_some, Options.pass, Options.get?_map_run hx hmet,
        Function.iterate_succ_apply']

/-- Two runs with a leading text over a value that refers to a name twice and breaks off. -/
theorem chained_passes_of_app :
    let o : Options := ⟨.debug, [], some "app"⟩
    let rules : List Rule := [⟨":root", [⟨"--a", "var(--b, var(--a)) var(--c"⟩]⟩]
    o.LeadsPlainly ∧ o.except = [] ∧ (o.pass rules 1).stats = (o.pass rules 0).stats ∧
      o.followed rules 2 "a" = some "app-app-a__" := by
  intro o rules
  have ho : o.LeadsPlainly := by
    intro lead hlead
    cases hlead
    simp [Value.marks]
  obtain ⟨-, hstats, -, hfollowed⟩ := chained_passes ho rfl rules
  have hname : "a" ∈ discovered rules := by decide +kernel
  exact ⟨ho, rfl, hstats 1, (hfollowed 2 "a" hname).trans (by decide +kernel)⟩

end CustomProps
