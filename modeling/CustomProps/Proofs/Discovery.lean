import CustomProps.Proofs.Capture
/-!
# What a run discovers

The map that a run delivers is the list of the names that it has discovered, less those that are
excluded.
-/
namespace CustomProps

/-- The names that rules carry, each once, as they are first met. -/
def discovered (rules : List Rule) : List String := (occurrences rules).eraseDups

/-- The map that a run delivers has the names that are met and not excluded, each once with what it
is renamed to, in the order of their first occurrences, and no two of them are renamed to the
same. -/
theorem map_run (o : Options) (rules : List Rule) :
    (o.run rules).map.toList =
        ((discovered rules).filter fun name => !o.isExcluded name).map
          (fun name => (name, o.decorate name)) ∧
      (o.run rules).map.keys.Pairwise
        (fun m n => (occurrences rules).idxOf m < (occurrences rules).idxOf n) ∧
      (∀ name, name ∈ (o.run rules).map.keys ↔
        name ∈ occurrences rules ∧ o.isExcluded name = false) ∧
      (∀ name, (o.run rules).map.get? name =
        if name ∈ occurrences rules ∧ o.isExcluded name = false then some (o.decorate name)
        else none) ∧
      ((o.run rules).map.toList.map Prod.snd).Nodup := by
  have hknown := Walk.knowledge_run o rules
  have hentries : (o.run rules).map.toList = o.entries (occurrences rules) := hknown.toList
  have hkeys := hknown.keys_eq
  have hmem : ∀ name, name ∈ (o.run rules).map.keys ↔
      name ∈ occurrences rules ∧ o.isExcluded name = false := fun _ => hknown.mem_keys
  refine ⟨hentries, ?_, hmem, ?_, ?_⟩
  · show ((Walk.start o).rules rules).2.knowledge.map.keys.Pairwise _
    rw [hkeys]
    exact (pairwise_idxOf_eraseDups _).sublist List.filter_sublist
  · intro name
    have hget : ∀ renamed, (o.run rules).map.get? name = some renamed ↔
        (name, renamed) ∈ (o.run rules).map.toList := fun _ => hknown.indexed.get?_eq_some_iff
    split
    · rename_i hin
      rw [hget, hentries, Options.entries]
      refine List.mem_map.mpr ⟨name, List.mem_filter.mpr ⟨?_, by simp [hin.2]⟩, rfl⟩
      exact List.mem_eraseDups.mpr hin.1
    · rename_i hout
      rw [Option.eq_none_iff_forall_ne_some]
      intro renamed hrenamed
      exact hout ((hmem name).mp (List.mem_map_of_mem (f := Prod.fst) ((hget renamed).mp hrenamed)))
  · rw [hentries, Options.entries, List.map_map]
    refine List.Nodup.map (fun m n hmn => Options.decorate_injective hmn) ?_
    exact (nodup_eraseDups _).filter _

/-- A declaration's own name comes before the names that its value refers to. -/
example : discovered [⟨"a", [⟨"--b", "var(--a, var(--b))"⟩, ⟨"--a", "0"⟩]⟩] = ["b", "a"] := by
  decide +kernel

end CustomProps
