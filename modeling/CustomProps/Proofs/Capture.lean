import CustomProps.Proofs.Rescan
/-!
# Names that a run brings together

Decorated names stay apart from each other, and so do kept ones. But nothing keeps the two sides
apart: a kept name may read what another name is decorated to. That is the only way in which a run
brings two names together. It parts none, as long as the leading text holds no mark: with a mark in
it, a property and a reference that are given the same new name can be read under different ones.
-/
namespace CustomProps

/-! ### Names under the options -/

theorem Strategy.apply_injective {s : Strategy} {m n : String} (h : s.apply m = s.apply n) :
    m = n := by
  cases s with
  | plain => exact h
  | debug => exact (String.append_left_inj debugSuffix).mp h

namespace Options

variable {o : Options} {m n : String}

theorem decorate_injective (h : o.decorate m = o.decorate n) : m = n := by
  unfold decorate at h
  split at h
  · exact Strategy.apply_injective ((String.append_right_inj _).mp h)
  · exact Strategy.apply_injective h

/-- The kept name `m` reads what `n` is renamed to. -/
structure Captures (o : Options) (m n : String) : Prop where
  kept : o.isExcluded m = true
  renamed : o.isExcluded n = false
  reads : m = o.decorate n

theorem target_eq_iff : o.target m = o.target n ↔ m = n ∨ o.Captures m n ∨ o.Captures n m := by
  constructor
  · intro h
    cases hm : o.isExcluded m with
    | true =>
      rw [target_of_isExcluded hm] at h
      cases hn : o.isExcluded n with
      | true =>
        rw [target_of_isExcluded hn] at h
        exact Or.inl h
      | false =>
        rw [target_of_not_isExcluded hn] at h
        exact Or.inr (Or.inl ⟨hm, hn, h⟩)
    | false =>
      rw [target_of_not_isExcluded hm] at h
      cases hn : o.isExcluded n with
      | true =>
        rw [target_of_isExcluded hn] at h
        exact Or.inr (Or.inr ⟨hn, hm, h.symm⟩)
      | false =>
        rw [target_of_not_isExcluded hn] at h
        exact Or.inl (decorate_injective h)
  · rintro (rfl | ⟨hm, hn, hreads⟩ | ⟨hn, hm, hreads⟩)
    · rfl
    · rw [target_of_isExcluded hm, target_of_not_isExcluded hn, hreads]
    · rw [target_of_isExcluded hn, target_of_not_isExcluded hm, hreads]

end Options

/-! ### Names in the text -/

/-- A place of a stylesheet that carries a name: a property that declares it, or a reference. -/
structure Carrier where
  declares : Bool
  name : String
deriving DecidableEq, Repr

namespace Carrier

def renamed (f : String → String) (c : Carrier) : Carrier := { c with name := f c.name }

/-- The first place refers to the name that the second one declares. -/
structure PointsTo (c d : Carrier) : Prop where
  refers : c.declares = false
  declares : d.declares = true
  name : c.name = d.name

end Carrier

/-- The places of a declaration that carry a name, as they are found in its text. -/
def Declaration.carriers (d : Declaration) : List Carrier :=
  (PropertyName.ofProp? d.prop).toList.map (⟨true, ·⟩) ++
    ((Value.scan d.value).names d.value).map (⟨false, ·⟩)

/-- The places of rules that carry a name, in document order. -/
def carriers (rules : List Rule) : List Carrier :=
  rules.flatMap fun r => r.declarations.flatMap Declaration.carriers

theorem Declaration.map_name_carriers (d : Declaration) :
    d.carriers.map Carrier.name = d.occurrences := by
  rw [carriers, occurrences, List.map_append, List.map_map, List.map_map]
  exact congrArg₂ (· ++ ·) (List.map_id _) (List.map_id _)

theorem map_name_carriers (rules : List Rule) :
    (carriers rules).map Carrier.name = occurrences rules := by
  rw [carriers, occurrences, List.map_flatMap]
  refine congrArg (rules.flatMap ·) (funext fun r => ?_)
  rw [List.map_flatMap]
  exact congrArg (r.declarations.flatMap ·) (funext Declaration.map_name_carriers)

namespace Options

variable {o : Options}

theorem carriers_rename (ho : o.LeadsPlainly) {d d' : Declaration}
    (h : d.rename? o.target = some d') :
    d'.carriers = d.carriers.map (Carrier.renamed o.target) := by
  obtain ⟨value, hvalue, rfl⟩ := Option.map_eq_some_iff.mp h
  have hrescans := Value.rescans_rename? (sound_rename_target ho) hvalue
  rw [Declaration.carriers, Declaration.carriers, List.map_append, hrescans.names,
    PropertyName.ofProp?_rename (fun _ => o.target_ne_empty), Option.toList_map]
  simp only [List.map_map]
  rfl

theorem carriers_run (ho : o.LeadsPlainly) (rules : List Rule) :
    carriers (o.run rules).rules = (carriers rules).map (Carrier.renamed o.target) := by
  obtain ⟨g, hg⟩ := Declaration.exists_rename o.target
  rw [rules_run_eq_map hg, carriers, carriers, List.flatMap_map, List.map_flatMap]
  refine congrArg (rules.flatMap ·) (funext fun r => ?_)
  rw [List.flatMap_map, List.map_flatMap]
  exact congrArg (r.declarations.flatMap ·) (funext fun d => carriers_rename ho (hg d))

theorem occurrences_run (ho : o.LeadsPlainly) (rules : List Rule) :
    occurrences (o.run rules).rules = (occurrences rules).map o.target := by
  rw [← map_name_carriers, ← map_name_carriers, carriers_run ho, List.map_map, List.map_map]
  rfl

/-- Every place is found again after a run, under its new name. -/
theorem renamed_of_mem_zip (ho : o.LeadsPlainly) {rules : List Rule} {p : Carrier × Carrier}
    (hp : p ∈ (carriers rules).zip (carriers (o.run rules).rules)) :
    p.2 = p.1.renamed o.target := by
  have hzip : (carriers rules).zip (carriers (o.run rules).rules) =
      (carriers rules).map fun c => (c, c.renamed o.target) := by
    have hpairs : ((carriers rules).map id).zip ((carriers rules).map (Carrier.renamed o.target)) =
        (carriers rules).map fun c => (c, c.renamed o.target) := List.zip_map'
    rw [List.map_id] at hpairs
    rw [carriers_run ho]
    exact hpairs
  rw [hzip] at hp
  obtain ⟨c, -, rfl⟩ := List.mem_map.mp hp
  rfl

end Options

/-! ### When a run brings names together -/

/-- The resolver of a run that has been asked for the given names. -/
def Resolver.asked (o : Options) (names : List String) : Resolver :=
  names.foldl (fun r name => (r.resolve name).2) (Resolver.new o)

theorem Resolver.faithful_asked (o : Options) (names : List String) :
    (Resolver.asked o names).Faithful o := by
  have hfold : ∀ r : Resolver, r.Faithful o →
      (names.foldl (fun r name => (r.resolve name).2) r).Faithful o := by
    induction names with
    | nil => exact fun r h => h
    | cons name names ih => exact fun r h => ih _ (h.resolve_snd name)
  exact hfold _ (Resolver.faithful_new o)

/-- Whatever has been resolved before, two names are renamed to the same exactly if they are the
same or one of them captures the other. Under a leading text without marks, a run leaves the places
of a stylesheet that carry a name as they were, declaring or referring. Two of them read the same
after it exactly if they read the same before it or one of their names captures the other. Unless
one does, a reference points to a declaration after the run exactly if it did before it. -/
theorem reads_same_iff (o : Options) :
    (∀ names m n, ((Resolver.asked o names).resolve m).1.renamed =
        (((Resolver.asked o names).resolve m).2.resolve n).1.renamed ↔
      m = n ∨ o.Captures m n ∨ o.Captures n m) ∧
    (o.LeadsPlainly → ∀ rules : List Rule,
      (carriers (o.run rules).rules).length = (carriers rules).length ∧
      ∀ p ∈ (carriers rules).zip (carriers (o.run rules).rules),
      ∀ q ∈ (carriers rules).zip (carriers (o.run rules).rules),
        p.2.declares = p.1.declares ∧
        (p.2.name = q.2.name ↔
          p.1.name = q.1.name ∨ o.Captures p.1.name q.1.name ∨ o.Captures q.1.name p.1.name) ∧
        (¬o.Captures p.1.name q.1.name → ¬o.Captures q.1.name p.1.name →
          (p.2.PointsTo q.2 ↔ p.1.PointsTo q.1))) := by
  constructor
  · intro names m n
    have hfaithful := Resolver.faithful_asked o names
    rw [hfaithful.resolve_fst, (hfaithful.resolve_snd m).resolve_fst, Options.renamed_resolve,
      Options.renamed_resolve]
    exact Options.target_eq_iff
  · intro ho rules
    refine ⟨by rw [Options.carriers_run ho, List.length_map], fun p hp q hq => ?_⟩
    rw [Options.renamed_of_mem_zip ho hp, Options.renamed_of_mem_zip ho hq]
    have hsame : o.target p.1.name = o.target q.1.name ↔ p.1.name = q.1.name ∨
        o.Captures p.1.name q.1.name ∨ o.Captures q.1.name p.1.name := Options.target_eq_iff
    refine ⟨rfl, hsame, fun hpq hqp => ⟨fun h => ?_, fun h => ?_⟩⟩
    · have hname := (hsame.mp h.name).resolve_right (not_or.mpr ⟨hpq, hqp⟩)
      exact ⟨h.refers, h.declares, hname⟩
    · exact ⟨h.refers, h.declares, hsame.mpr (Or.inl h.name)⟩

/-- A leading text without marks, and a reference to a declared name beside a name that is kept. -/
theorem reads_same_iff_of_app :
    let o : Options := ⟨.debug, [.exact "kept"], some "app"⟩
    let rules : List Rule := [⟨":root", [⟨"--a", "var(--kept)"⟩, ⟨"width", "var(--a)"⟩]⟩]
    o.LeadsPlainly ∧
      carriers (o.run rules).rules = [⟨true, "app-a_"⟩, ⟨false, "kept"⟩, ⟨false, "app-a_"⟩] ∧
      Carrier.PointsTo ⟨false, "app-a_"⟩ ⟨true, "app-a_"⟩ := by
  intro o rules
  have ho : o.LeadsPlainly := by
    intro lead hlead
    cases hlead
    simp [Value.marks]
  have hbefore : carriers rules = [⟨true, "a"⟩, ⟨false, "kept"⟩, ⟨false, "a"⟩] := by
    decide +kernel
  have hafter : carriers (o.run rules).rules =
      [⟨true, "app-a_"⟩, ⟨false, "kept"⟩, ⟨false, "app-a_"⟩] := by
    rw [Options.carriers_run ho, hbefore]
    decide
  obtain ⟨-, hplaces⟩ := (reads_same_iff o).2 ho rules
  rw [hbefore, hafter] at hplaces
  obtain ⟨-, -, hpoints⟩ := hplaces (⟨false, "a"⟩, ⟨false, "app-a_"⟩) (by simp)
    (⟨true, "a"⟩, ⟨true, "app-a_"⟩) (by simp)
  have hopen : ¬o.Captures "a" "a" := fun h => by cases h.kept.symm.trans h.renamed
  exact ⟨ho, hafter, (hpoints hopen hopen).mpr ⟨rfl, rfl, rfl⟩⟩

/-- Under the debug strategy the kept name `a_` captures `a`: both are declared, and a run leaves
two declarations of `a_`. And under the leading text `x)` a reference to a declared name is read as
a reference to `x` after a run, which nothing declares. -/
theorem captured_and_parted :
    (let o : Options := ⟨.debug, [.exact "a_"], none⟩
      let rules : List Rule := [⟨":root", [⟨"--a", "1px"⟩, ⟨"--a_", "2px"⟩]⟩]
      Options.ofSettings [.strategy "debug", .exclude (.name "a_")] = .ok o ∧
        ((Resolver.new o).resolve "a").1.renamed = "a_" ∧
        ((Resolver.new o).resolve "a_").1.renamed = "a_" ∧
        carriers rules = [⟨true, "a"⟩, ⟨true, "a_"⟩] ∧
        carriers (o.run rules).rules = [⟨true, "a_"⟩, ⟨true, "a_"⟩]) ∧
      let o : Options := ⟨.plain, [], some "x)"⟩
      let rules : List Rule := [⟨":root", [⟨"--a", "1px"⟩, ⟨"width", "var(--a)"⟩]⟩]
      Options.ofSettings [.lead "x)"] = .ok o ∧
        carriers rules = [⟨true, "a"⟩, ⟨false, "a"⟩] ∧
        carriers (o.run rules).rules = [⟨true, "x)-a"⟩, ⟨false, "x"⟩] := by
  constructor
  · intro o rules
    have ho : o.LeadsPlainly := by
      intro lead hlead
      cases hlead
    have hbefore : carriers rules = [⟨true, "a"⟩, ⟨true, "a_"⟩] := by decide +kernel
    have hresolve : ∀ name, ((Resolver.new o).resolve name).1.renamed = o.target name := by
      intro name
      rw [(Resolver.faithful_new o).resolve_fst, Options.renamed_resolve]
    refine ⟨rfl, ?_, ?_, hbefore, ?_⟩
    · rw [hresolve]
      decide
    · rw [hresolve]
      decide
    · rw [Options.carriers_run ho, hbefore]
      decide
  · intro o rules
    refine ⟨rfl, by decide +kernel, ?_⟩
    -- the lead holds a mark, so the values are renamed and scanned as they stand
    obtain ⟨f, hf⟩ := Declaration.exists_rename o.target
    have hproperty : f ⟨"--a", "1px"⟩ = ⟨"--x)-a", "1px"⟩ :=
      Option.some.inj ((hf _).symm.trans (by decide +kernel))
    have hreference : f ⟨"width", "var(--a)"⟩ = ⟨"width", "var(--x)-a)"⟩ :=
      Option.some.inj ((hf _).symm.trans (by decide +kernel))
    rw [Options.rules_run_eq_map hf, List.map_singleton, List.map_cons, List.map_singleton,
      hproperty, hreference]
    decide +kernel

end CustomProps
