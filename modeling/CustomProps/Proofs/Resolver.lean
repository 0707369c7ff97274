import CustomProps.Proofs.FirstMet
import CustomProps.Resolver
/-!
# What a resolver remembers

Whatever a resolver has been asked before, it answers what the options say of a name. It remembers
the names that it has been asked for and no others, so its counts are counts of those.
-/
namespace CustomProps

namespace Options

/-- What a name reads after a run: an excluded name as before, any other name decorated. -/
def target (o : Options) (name : String) : String :=
  if o.isExcluded name then name else o.decorate name

theorem target_of_isExcluded {o : Options} {name : String} (h : o.isExcluded name = true) :
    o.target name = name := by
  rw [target, if_pos h]

theorem target_of_not_isExcluded {o : Options} {name : String} (h : o.isExcluded name = false) :
    o.target name = o.decorate name := by
  rw [target, if_neg (by simp [h])]

theorem renamed_resolve (o : Options) (name : String) :
    (o.resolve name).renamed = o.target name := by
  unfold resolve target
  split <;> rfl

theorem excluded_resolve (o : Options) (name : String) :
    (o.resolve name).excluded = o.isExcluded name := by
  unfold resolve
  split <;> simp_all

/-- The text has to change exactly where the name is to read otherwise. -/
theorem changes_resolve (o : Options) (name : String) :
    (o.resolve name).changes name = (o.target name != name) := by
  rw [Resolution.changes, excluded_resolve, renamed_resolve]
  cases hx : o.isExcluded name with
  | true => simp [target_of_isExcluded hx]
  | false => simp

end Options

namespace Resolver

variable {o : Options} {r : Resolver}

/-- The resolver works under the options `o`, and what it remembers is what they say. -/
structure Faithful (o : Options) (r : Resolver) : Prop where
  options : r.options = o
  cache : ∀ name resolution, r.cache[name]? = some resolution → resolution = o.resolve name

theorem faithful_new (o : Options) : (new o).Faithful o where
  options := rfl
  cache := by simp [new]

theorem Faithful.resolve_fst (h : r.Faithful o) (name : String) :
    (r.resolve name).1 = o.resolve name := by
  unfold resolve
  split
  · rename_i resolution hc
    exact h.cache name resolution hc
  · rw [h.options]

theorem Faithful.resolve_snd (h : r.Faithful o) (name : String) :
    (r.resolve name).2.Faithful o := by
  unfold resolve
  split
  · exact h
  · refine ⟨h.options, fun other resolution hc => ?_⟩
    rw [Std.HashMap.getElem?_insert] at hc
    split at hc
    · rename_i heq
      cases hc
      rw [← eq_of_beq heq, h.options]
    · exact h.cache other resolution hc

/-- The resolver works under the options `o` and has been asked for the given names. -/
structure Remembers (o : Options) (names : List String) (r : Resolver) : Prop where
  options : r.options = o
  cache : ∀ name : String, r.cache[name]? = if name ∈ names then some (o.resolve name) else none

variable {names : List String}

theorem remembers_new (o : Options) : (new o).Remembers o [] where
  options := rfl
  cache := by simp [new]

theorem Remembers.faithful (h : r.Remembers o names) : r.Faithful o where
  options := h.options
  cache := by
    intro name resolution hc
    rw [h.cache] at hc
    split at hc
    · exact (Option.some.inj hc).symm
    · cases hc

theorem Remembers.resolve (h : r.Remembers o names) (name : String) :
    (r.resolve name).2.Remembers o (names ++ [name]) := by
  unfold Resolver.resolve
  split
  · rename_i resolution hc
    have hold : name ∈ names := by
      by_contra hnew
      rw [h.cache, if_neg hnew] at hc
      cases hc
    refine ⟨h.options, fun other => ?_⟩
    rw [h.cache]
    refine if_congr ?_ rfl rfl
    constructor
    · exact List.mem_append_left [name]
    · intro hmem
      rcases List.mem_append.mp hmem with hmem | hmem
      · exact hmem
      · rw [List.mem_singleton.mp hmem]
        exact hold
  · refine ⟨h.options, fun other => ?_⟩
    rw [Std.HashMap.getElem?_insert, h.cache, h.options]
    by_cases heq : name = other
    · simp [heq]
    · have hne : other ≠ name := Ne.symm heq
      simp [heq, hne]

theorem Remembers.keys_perm (h : r.Remembers o names) : r.cache.keys.Perm names.eraseDups := by
  refine (List.perm_ext_iff_of_nodup Std.HashMap.nodup_keys (nodup_eraseDups names)).mpr fun name => ?_
  rw [Std.HashMap.mem_keys, Std.HashMap.mem_iff_isSome_getElem?, h.cache, List.mem_eraseDups]
  split
  · rename_i hmem
    simp [hmem]
  · rename_i hnew
    simp [hnew]

theorem Remembers.count_eq (h : r.Remembers o names) : r.count = names.eraseDups.length := by
  rw [count, ← Std.HashMap.length_keys]
  exact h.keys_perm.length_eq

theorem Remembers.excludedCount_eq (h : r.Remembers o names) :
    r.excludedCount = names.eraseDups.countP o.isExcluded := by
  have hentry : ∀ e ∈ r.cache.toList, e.2.excluded = o.isExcluded e.1 := by
    intro e he
    have hc := Std.HashMap.mem_toList_iff_getElem?_eq_some.mp he
    rw [h.faithful.cache _ _ hc, Options.excluded_resolve]
  calc r.excludedCount
      = r.cache.toList.countP fun e => o.isExcluded e.1 :=
        List.countP_congr fun e he => by rw [hentry e he]
    _ = r.cache.keys.countP o.isExcluded := by
        rw [← Std.HashMap.map_fst_toList_eq_keys, List.countP_map]
        rfl
    _ = names.eraseDups.countP o.isExcluded := h.keys_perm.countP_eq _

end Resolver
end CustomProps
