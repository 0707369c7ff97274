import CustomProps.Proofs.Counters
/-!
# Rules and declarations in another order

What a run makes of a declaration does not hang on where the declaration stands, and what a run
counts does not hang on any order. The order shows only in the map, which has the same entries in
the order of their first occurrences. How rules and declarations are handed to a walk shows nowhere
but in the number of rules.
-/
namespace CustomProps

/-! ### Other orders -/

/-- The members of a list at the given places, in the order of the places. -/
def arrange {α : Type} (places : List Nat) (l : List α) : List α := places.filterMap fun i => l[i]?

theorem arrange_map {α β : Type} (f : α → β) (places : List Nat) (l : List α) :
    arrange places (l.map f) = (arrange places l).map f := by
  rw [arrange, arrange, List.map_filterMap]
  refine congrArg (fun g => places.filterMap g) (funext fun i => ?_)
  exact List.getElem?_map

theorem arrange_range {α : Type} (l : List α) : arrange (List.range l.length) l = l := by
  induction l with
  | nil => rfl
  | cons a l ih =>
    have hrest : (List.range l.length).filterMap (fun i => (a :: l)[i + 1]?) = l := ih
    rw [arrange, List.length_cons, List.range_succ_eq_map, List.filterMap_cons, List.filterMap_map]
    exact congrArg (List.cons a) hrest

theorem arrange_perm {α : Type} {places : List Nat} {l : List α}
    (h : places.Perm (List.range l.length)) : (arrange places l).Perm l := by
  have hmembers : (arrange places l).Perm (arrange (List.range l.length) l) := h.filterMap _
  rw [arrange_range] at hmembers
  exact hmembers

/-- How many declarations each rule has. -/
def sizes (rules : List Rule) : List Nat := rules.map fun r => r.declarations.length

theorem length_sizes (rules : List Rule) : (sizes rules).length = rules.length := List.length_map _

/-- Another order of rules that have so many declarations, and of the declarations in each rule: the
places from which they come, those of declarations listed by the old places of the rules. -/
structure Arrangement (sizes : List Nat) where
  rules : List Nat
  declarations : List (List Nat)
  rules_perm : rules.Perm (List.range sizes.length)
  declarations_perm :
    List.Forall₂ (fun places size => places.Perm (List.range size)) declarations sizes

namespace Arrangement

/-- The declarations of every rule in their new order, under the old order of the rules. -/
def inside (places : List (List Nat)) (rules : List Rule) : List Rule :=
  List.zipWith (fun places r => ⟨r.selector, arrange places r.declarations⟩) places rules

/-- The rules in their new order, each with its declarations in their new order. -/
def apply {ns : List Nat} (a : Arrangement ns) (rules : List Rule) : List Rule :=
  arrange a.rules (inside a.declarations rules)

theorem apply_map {ns : List Nat} (a : Arrangement ns) (g : Declaration → Declaration)
    (rules : List Rule) :
    a.apply (rules.map fun r => ⟨r.selector, r.declarations.map g⟩) =
      (a.apply rules).map fun r => ⟨r.selector, r.declarations.map g⟩ := by
  rw [apply, apply, ← arrange_map, inside, inside, List.zipWith_map_right, List.map_zipWith]
  simp only [arrange_map]

theorem inside_spec {places : List (List Nat)} {rules : List Rule}
    (h : List.Forall₂ (fun places size => places.Perm (List.range size)) places (sizes rules)) :
    (inside places rules).length = rules.length ∧
      ((inside places rules).flatMap Rule.declarations).Perm
        (rules.flatMap Rule.declarations) := by
  induction rules generalizing places with
  | nil =>
    cases h
    exact ⟨rfl, List.Perm.refl _⟩
  | cons r rules ih =>
    cases h with
    | cons hr hrest =>
      obtain ⟨hlength, hperm⟩ := ih hrest
      refine ⟨congrArg Nat.succ hlength, ?_⟩
      exact (arrange_perm hr).append hperm

variable {rules : List Rule} (a : Arrangement (sizes rules))

theorem apply_perm : (a.apply rules).Perm (inside a.declarations rules) := by
  refine arrange_perm ?_
  rw [(inside_spec a.declarations_perm).1, ← length_sizes]
  exact a.rules_perm

theorem length_apply : (a.apply rules).length = rules.length :=
  a.apply_perm.length_eq.trans (inside_spec a.declarations_perm).1

theorem declarations_apply_perm :
    ((a.apply rules).flatMap Rule.declarations).Perm (rules.flatMap Rule.declarations) :=
  (a.apply_perm.flatMap_right _).trans (inside_spec a.declarations_perm).2

end Arrangement

/-! ### What hangs on no order -/

theorem occurrences_eq_flatMap (rules : List Rule) :
    occurrences rules = (rules.flatMap Rule.declarations).flatMap Declaration.occurrences := by
  rw [occurrences, List.flatMap_assoc]

theorem discovered_perm {rules rules' : List Rule}
    (h : (rules'.flatMap Rule.declarations).Perm (rules.flatMap Rule.declarations)) :
    (discovered rules').Perm (discovered rules) := by
  rw [discovered, discovered, occurrences_eq_flatMap, occurrences_eq_flatMap]
  exact eraseDups_perm (h.flatMap_right _)

theorem Stats.tally_perm {g : Declaration → Declaration} {ds ds' : List Declaration}
    (h : ds'.Perm ds) : tally g ds' = tally g ds := by
  simp only [tally, h.length_eq, h.countP_eq]

namespace Options

variable (o : Options) {rules rules' : List Rule}

theorem stats_run_perm (hlength : rules'.length = rules.length)
    (h : (rules'.flatMap Rule.declarations).Perm (rules.flatMap Rule.declarations)) :
    (o.run rules').stats = (o.run rules).stats := by
  obtain ⟨g, hg⟩ := Declaration.exists_rename o.target
  have hnames := discovered_perm h
  rw [stats_run_eq_tally hg, stats_run_eq_tally hg, Stats.tally_perm h, hlength, hnames.length_eq,
    hnames.countP_eq]

theorem map_run_perm
    (h : (rules'.flatMap Rule.declarations).Perm (rules.flatMap Rule.declarations)) :
    (o.run rules').map.toList.Perm (o.run rules).map.toList := by
  have hentries : ∀ rules, (o.run rules).map.toList = o.entries (occurrences rules) :=
    fun rules => (Walk.knowledge_run o rules).toList
  rw [hentries, hentries, entries, entries]
  exact ((discovered_perm h).filter _).map _

end Options

/-! ### Walks that are given their declarations in parts -/

/-- What is given to a walk at once. -/
inductive Portion where
  | rules (rs : List Rule)
  | declaration (d : Declaration)
deriving DecidableEq, Repr, Inhabited

def Portion.declarations : Portion → List Declaration
  | rules rs => rs.flatMap Rule.declarations
  | declaration d => [d]

namespace Stats

/-- The counters without the number of rules, which hangs on how declarations are put together. -/
def exceptRules (s : Stats) : Stats := { s with rulesVisited := 0 }

theorem exceptRules_add (s t : Stats) : (s + t).exceptRules = s.exceptRules + t.exceptRules := rfl

end Stats

namespace Walk

def portion (w : Walk) : Portion → Portion × Walk
  | .rules rs =>
    let (rs, w) := w.rules rs
    (.rules rs, w)
  | .declaration d =>
    let (d, w) := w.declaration d
    (.declaration d, w)

def portions (w : Walk) : List Portion → List Portion × Walk
  | [] => ([], w)
  | p :: rest =>
    let (p, w) := w.portion p
    let (rest, w) := w.portions rest
    (p :: rest, w)

/-- The walk has gone on to `w'` over declarations, which became `after`. However they were given to
it, this fixes what it knows and what it counts, rules apart. -/
structure Passed (g : Declaration → Declaration) (w : Walk) (ds after : List Declaration)
    (w' : Walk) : Prop where
  after : after = ds.map g
  knowledge : w'.knowledge = w.knowledge.meetAll (ds.flatMap Declaration.occurrences)
  stats : w'.stats.exceptRules = (w.stats + Stats.tally g ds).exceptRules

variable {o : Options} {g : Declaration → Declaration} {w : Walk}

theorem passed_portion (h : w.resolver.Faithful o) (hg : ∀ d, d.rename? o.target = some (g d))
    (p : Portion) :
    w.Passed g p.declarations (w.portion p).1.declarations (w.portion p).2 := by
  cases p with
  | rules rs =>
    have hrules : (w.rules rs).1.flatMap Rule.declarations =
        (rs.flatMap Rule.declarations).map g := by
      rw [(rules_spec h hg rs).1, List.flatMap_map, List.map_flatMap]
    refine ⟨hrules, ?_, ?_⟩
    · show (w.rules rs).2.knowledge = _
      rw [knowledge_rules, occurrences_eq_flatMap]
      rfl
    · show (w.rules rs).2.stats.exceptRules = _
      rw [stats_rules h hg rs]
      rfl
  | declaration d =>
    have hd : (w.declaration d).1 = g d :=
      Option.some.inj ((declaration_fst h d).symm.trans (hg d))
    refine ⟨congrArg (fun d => [d]) hd, ?_, ?_⟩
    · show (w.declaration d).2.knowledge = _
      rw [knowledge_declaration]
      simp [Portion.declarations]
    · show (w.declaration d).2.stats.exceptRules = _
      rw [stats_declaration h hg d]
      rfl

theorem Passed.append {w' w'' : Walk} {ds es after after' : List Declaration}
    (h : w.Passed g ds after w') (h' : w'.Passed g es after' w'') :
    w.Passed g (ds ++ es) (after ++ after') w'' where
  after := by rw [h.after, h'.after, List.map_append]
  knowledge := by rw [h'.knowledge, h.knowledge, ← Knowledge.meetAll_append, List.flatMap_append]
  stats := by
    calc w''.stats.exceptRules = w'.stats.exceptRules + (Stats.tally g es).exceptRules := by
          rw [h'.stats, Stats.exceptRules_add]
      _ = (w.stats + Stats.tally g ds).exceptRules + (Stats.tally g es).exceptRules := by
          rw [h.stats]
      _ = (w.stats + Stats.tally g (ds ++ es)).exceptRules := by
          rw [← Stats.exceptRules_add, Stats.add_assoc, ← Stats.tally_append]

theorem passed_portions (h : w.resolver.Faithful o) (hg : ∀ d, d.rename? o.target = some (g d))
    (ps : List Portion) :
    w.Passed g (ps.flatMap Portion.declarations)
      ((w.portions ps).1.flatMap Portion.declarations) (w.portions ps).2 := by
  induction ps generalizing w with
  | nil => exact ⟨rfl, rfl, rfl⟩
  | cons p ps ih =>
    have hfirst := passed_portion h hg p
    have hfaithful : (w.portion p).2.resolver.Faithful o := by
      show (w.portion p).2.knowledge.resolver.Faithful o
      rw [hfirst.knowledge]
      exact Knowledge.faithful_meetAll h _
    exact hfirst.append (ih hfaithful)

theorem exceptRules_finalStats (w : Walk) : w.finalStats.exceptRules =
    { w.stats.exceptRules with
      namesDiscovered := w.knowledge.resolver.count
      namesExcluded := w.knowledge.resolver.excludedCount } := rfl

end Walk

/-! ### Order is free -/

/-- Rules and declarations in another order come out in that order, as they did before, with the same
counters and the same entries in the map. And however declarations are handed to a walk, it makes
the same of them, delivers the same map and counts the same, rules apart. -/
theorem arranged_run (o : Options) :
    (∀ (rules : List Rule) (a : Arrangement (sizes rules)),
      (o.run (a.apply rules)).rules = a.apply (o.run rules).rules ∧
        (o.run (a.apply rules)).stats = (o.run rules).stats ∧
        (o.run (a.apply rules)).map.toList.Perm (o.run rules).map.toList) ∧
    ∀ ps qs : List Portion, ps.flatMap Portion.declarations = qs.flatMap Portion.declarations →
      let (after, w) := (Walk.start o).portions ps
      let (after', w') := (Walk.start o).portions qs
      after.flatMap Portion.declarations = after'.flatMap Portion.declarations ∧
        w.map = w'.map ∧
        w.finalStats.exceptRules = w'.finalStats.exceptRules := by
  obtain ⟨g, hg⟩ := Declaration.exists_rename o.target
  constructor
  · intro rules a
    refine ⟨?_, ?_, ?_⟩
    · rw [Options.rules_run_eq_map hg, Options.rules_run_eq_map hg, a.apply_map]
    · exact o.stats_run_perm a.length_apply a.declarations_apply_perm
    · exact o.map_run_perm a.declarations_apply_perm
  · intro ps qs hsame
    have hps := Walk.passed_portions (w := Walk.start o) (Resolver.faithful_new o) hg ps
    have hqs := Walk.passed_portions (w := Walk.start o) (Resolver.faithful_new o) hg qs
    rw [← hsame] at hqs
    have hknowledge := hps.knowledge.trans hqs.knowledge.symm
    refine ⟨hps.after.trans hqs.after.symm, congrArg Knowledge.map hknowledge, ?_⟩
    rw [Walk.exceptRules_finalStats, Walk.exceptRules_finalStats, hps.stats, hqs.stats, hknowledge]

/-- A stylesheet turned round, and the same stylesheet given to a walk with its rules torn apart. -/
theorem arranged_run_of_torn :
    let o : Options := ⟨.debug, [.exact "kept"], none⟩
    let first : Declaration := ⟨"--a", "var(--b, var(--kept))"⟩
    let second : Declaration := ⟨"--b", "var(--a) var(--c"⟩
    let third : Declaration := ⟨"color", "var(--d)"⟩
    let rules : List Rule := [⟨"x", [first, second]⟩, ⟨"y", [third]⟩]
    let turned : List Rule := [⟨"y", [third]⟩, ⟨"x", [second, first]⟩]
    let torn : List Portion := [.declaration first, .rules [⟨"z", [second]⟩, ⟨"y", [third]⟩]]
    [Portion.rules rules].flatMap Portion.declarations = torn.flatMap Portion.declarations ∧
      (o.run turned).stats = (o.run rules).stats ∧
      ((Walk.start o).portions [.rules rules]).2.map = ((Walk.start o).portions torn).2.map := by
  intro o first second third rules turned torn
  let a : Arrangement (sizes rules) :=
    { rules := [1, 0]
      declarations := [[1, 0], [0]]
      rules_perm := by decide
      declarations_perm := by
        refine .cons ?_ (.cons ?_ .nil)
        · decide
        · decide }
  have hsame : [Portion.rules rules].flatMap Portion.declarations =
      torn.flatMap Portion.declarations := rfl
  obtain ⟨horder, hportions⟩ := arranged_run o
  exact ⟨hsame, (horder rules a).2.1, (hportions _ torn hsame).2.1⟩

end CustomProps
