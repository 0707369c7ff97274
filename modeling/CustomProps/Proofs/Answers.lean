import CustomProps.Proofs.Knowledge
import Mathlib.Data.Finset.Card
/-!
# What a resolver answers

A resolver that is asked for names one after the other answers each time what the options say of the
name alone. That it remembers its answers shows in its counts only, and these are counts of the
names that it has been asked for. A map in which the answers are recorded has the names that are not
excluded as they were first asked for.
-/
namespace CustomProps

/-- What the names are resolved to, one after the other, and the resolver that has been asked. -/
def Resolver.resolveAll (r : Resolver) : List String → List Resolution × Resolver
  | [] => ([], r)
  | name :: names =>
    let (resolution, r) := r.resolve name
    let (later, r) := r.resolveAll names
    (resolution :: later, r)

/-- The map once names have been recorded, each with what it was resolved to. -/
def RenamingMap.recordAll (m : RenamingMap) (answered : List (String × Resolution)) : RenamingMap :=
  answered.foldl (fun m entry => m.record entry.1 entry.2) m

theorem Resolver.Faithful.resolveAll_fst {o : Options} {r : Resolver} (h : r.Faithful o)
    (names : List String) : (r.resolveAll names).1 = names.map o.resolve := by
  induction names generalizing r with
  | nil => rfl
  | cons name names ih =>
    have hlater := ih (h.resolve_snd name)
    show (r.resolve name).1 :: ((r.resolve name).2.resolveAll names).1 = _
    rw [h.resolve_fst, hlater, List.map_cons]

/-- To ask for names and then to record the answers is to meet the names. -/
theorem Knowledge.meetAll_eq (k : Knowledge) (names : List String) :
    k.meetAll names = ⟨(k.resolver.resolveAll names).2,
      k.map.recordAll (names.zip (k.resolver.resolveAll names).1)⟩ := by
  induction names generalizing k with
  | nil => rfl
  | cons name names ih => exact ih (k.meet name)

/-- Distinct members are counted alike as a set and as they are first met. -/
theorem card_filter_toFinset (p : String → Bool) (names : List String) :
    (names.toFinset.filter fun name => p name = true).card = names.eraseDups.countP p := by
  have hmembers : names.toFinset.filter (fun name => p name = true) =
      (names.eraseDups.filter p).toFinset := by
    ext name
    simp
  have hnodup : (names.eraseDups.filter p).Nodup := (nodup_eraseDups names).filter p
  rw [hmembers, List.toFinset_card_of_nodup hnodup, List.countP_eq_length_filter]

/-- Whatever it was asked before, a resolver answers for every name what the options say of it: an
excluded name stays, any other name is decorated. It counts the different names that it was asked
for and the excluded ones among them. And the map in which its answers are recorded has the names
that are not excluded, each once and decorated, in the order in which they were first asked for. -/
theorem answers_of_resolveAll (o : Options) (names : List String) :
    let asked := (Resolver.new o).resolveAll names
    let map := RenamingMap.empty.recordAll (names.zip asked.1)
    asked.1 = names.map (fun name =>
        if o.except.any (fun e => e.excludes name) then ⟨name, true⟩
        else ⟨o.decorate name, false⟩) ∧
      asked.2.count = names.toFinset.card ∧
      asked.2.excludedCount =
        (names.toFinset.filter fun name => o.isExcluded name = true).card ∧
      map.toList = (names.eraseDups.filter fun name => !o.isExcluded name).map
        (fun name => (name, o.decorate name)) ∧
      map.keys.Pairwise fun m n => names.idxOf m < names.idxOf n := by
  intro asked map
  have hknown := (Knowledge.of_start o).meetAll names
  rw [List.nil_append, Knowledge.meetAll_eq] at hknown
  have hresolver : asked.2.Remembers o names := hknown.resolver
  have hkeys : map.keys = names.eraseDups.filter fun name => !o.isExcluded name := hknown.keys_eq
  refine ⟨(Resolver.faithful_new o).resolveAll_fst names, ?_, ?_, hknown.toList, ?_⟩
  · have hall := card_filter_toFinset (fun _ => true) names
    rw [Finset.filter_true_of_mem fun _ _ => rfl, List.countP_true] at hall
    rw [hresolver.count_eq, hall]
  · rw [hresolver.excludedCount_eq, card_filter_toFinset]
  · rw [hkeys]
    exact (pairwise_idxOf_eraseDups names).sublist List.filter_sublist

end CustomProps
