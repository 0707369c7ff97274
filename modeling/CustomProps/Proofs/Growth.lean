import CustomProps.Proofs.Discovery
import Mathlib.Algebra.Order.BigOperators.Group.List
import Mathlib.Algebra.Order.Group.Int
/-!
# What renaming changes

A name that is renamed to something else gets longer. So the edits of a value, however many there
are, can never cancel out: a text that carries a name to be changed is changed.
-/
namespace CustomProps

variable {f : String → String}

/-- Every name that `f` changes gets longer. -/
def Lengthens (f : String → String) : Prop :=
  ∀ name, f name ≠ name → name.utf8ByteSize < (f name).utf8ByteSize

/-! ### Texts that stay as they are -/

namespace Value

variable {value value' : String}

theorem rename?_of_forall_eq (h : ∀ name ∈ (scan value).names value, f name = name) :
    rename? f value = some value := by
  have hsame : ∀ e ∈ renames f value, e.span.slice value = e.text := by
    intro e he
    obtain ⟨r, hr, rfl⟩ := List.mem_map.mp he
    exact (h _ (List.mem_map_of_mem hr)).symm
  obtain ⟨renamed, hrenamed⟩ := exists_rename? f value
  -- Edits that put back what they take out may as well be left out, all of them.
  have hnone := Edit.weave?_filter (fun _ => false) (fun e he _ => hsame e he) hrenamed
  rw [List.filter_false] at hnone
  rw [hrenamed, Span.eq_of_slice?_all hnone]

theorem forall_eq_of_rename? (hf : Lengthens f) (h : rename? f value = some value) :
    ∀ name ∈ (scan value).names value, f name = name := by
  have hgrows : ∀ n : String, (0 : Int) ≤ (f n).utf8ByteSize - n.utf8ByteSize := by
    intro n
    by_cases hn : f n = n
    · rw [hn, Int.sub_self]
    · have hlt := hf n hn
      omega
  -- The text keeps its size, and no edit makes it shorter: none makes it longer either.
  have hsum : ((renames f value).map Edit.growth).sum = 0 := by
    have hsize := Edit.utf8ByteSize_weave? h
    omega
  have hnonneg : ∀ g ∈ (renames f value).map Edit.growth, 0 ≤ g := by
    intro g hg
    rw [renames, List.map_map] at hg
    obtain ⟨r, hr, rfl⟩ := List.mem_map.mp hg
    exact (hgrows _).trans_eq (growth_reference hr _).symm
  intro name hname
  obtain ⟨r, hr, rfl⟩ := List.mem_map.mp hname
  have hzero : Edit.growth ⟨r.name, f (r.nameIn value)⟩ = 0 :=
    List.all_zero_of_le_zero_le_of_sum_eq_zero hnonneg hsum
      (List.mem_map_of_mem (List.mem_map_of_mem hr))
  rw [growth_reference hr] at hzero
  by_contra hne
  have hlt := hf _ hne
  omega

theorem rename?_eq_self_iff (hf : Lengthens f) (h : rename? f value = some value') :
    value' = value ↔ ∀ name ∈ (scan value).names value, f name = name := by
  constructor
  · rintro rfl
    exact forall_eq_of_rename? hf h
  · intro hall
    rw [rename?_of_forall_eq hall] at h
    exact (Option.some.inj h).symm

end Value

theorem PropertyName.rename_eq_self_iff {prop : String} :
    rename f prop = prop ↔ ∀ name ∈ (ofProp? prop).toList, f name = name := by
  unfold rename
  cases hname : ofProp? prop with
  | none => simp
  | some name =>
    have hprop := marker_append_of_ofProp? hname
    simp only [Option.toList_some, List.mem_singleton, forall_eq]
    rw [hprop]
    exact String.append_right_inj marker

theorem Declaration.rename?_eq_self_iff (hf : Lengthens f) {d d' : Declaration}
    (h : d.rename? f = some d') : d' = d ↔ ∀ name ∈ d.occurrences, f name = name := by
  obtain ⟨value, hvalue, rfl⟩ := Option.map_eq_some_iff.mp h
  obtain ⟨prop, value'⟩ := d
  rw [Declaration.mk.injEq, PropertyName.rename_eq_self_iff, Value.rename?_eq_self_iff hf hvalue,
    occurrences, List.forall_mem_append]

/-! ### Names under the options -/

namespace Options

variable {o : Options}

theorem lt_decorate (h : ¬(o.strategy = .plain ∧ o.lead = none)) (name : String) :
    name.utf8ByteSize < (o.decorate name).utf8ByteSize := by
  obtain ⟨strategy, except, lead⟩ := o
  have hsuffix : Strategy.debugSuffix.utf8ByteSize = 1 := rfl
  have hseparator : leadSeparator.utf8ByteSize = 1 := rfl
  have happly : name.utf8ByteSize ≤ (strategy.apply name).utf8ByteSize := by
    cases strategy with
    | plain => exact Nat.le_refl _
    | debug =>
      rw [Strategy.apply, String.utf8ByteSize_append]
      omega
  cases lead with
  | some lead =>
    simp only [decorate, String.utf8ByteSize_append]
    omega
  | none =>
    cases strategy with
    | plain => exact absurd ⟨rfl, rfl⟩ h
    | debug =>
      simp only [decorate, Strategy.apply, String.utf8ByteSize_append]
      omega

theorem decorate_eq_self_iff {name : String} :
    o.decorate name = name ↔ o.strategy = .plain ∧ o.lead = none := by
  constructor
  · intro h
    by_contra hchanges
    have hlt := lt_decorate hchanges name
    rw [h] at hlt
    omega
  · rintro ⟨hstrategy, hlead⟩
    rw [decorate, hlead, hstrategy]
    rfl

theorem target_eq_self_iff {name : String} :
    o.target name = name ↔ (o.strategy = .plain ∧ o.lead = none) ∨ o.isExcluded name = true := by
  cases hx : o.isExcluded name with
  | true => simp [target_of_isExcluded hx]
  | false => simp [target_of_not_isExcluded hx, decorate_eq_self_iff]

theorem lengthens_target (o : Options) : Lengthens o.target := by
  intro name hne
  cases hx : o.isExcluded name with
  | true => exact absurd (target_of_isExcluded hx) hne
  | false =>
    rw [target_of_not_isExcluded hx] at hne ⊢
    exact lt_decorate (mt decorate_eq_self_iff.mpr hne) name

end Options

/-! ### Runs that change nothing -/

theorem mem_occurrences {name : String} {rules : List Rule} :
    name ∈ occurrences rules ↔ ∃ r ∈ rules, ∃ d ∈ r.declarations, name ∈ d.occurrences := by
  simp only [occurrences, List.mem_flatMap]

theorem map_declarations_eq_self_iff {g : Declaration → Declaration} {rules : List Rule} :
    rules.map (fun r => (⟨r.selector, r.declarations.map g⟩ : Rule)) = rules ↔
      ∀ r ∈ rules, ∀ d ∈ r.declarations, g d = d := by
  have hrule : ∀ r : Rule, (⟨r.selector, r.declarations.map g⟩ : Rule) = r ↔
      ∀ d ∈ r.declarations, g d = d := by
    intro r
    obtain ⟨selector, ds⟩ := r
    rw [Rule.mk.injEq, and_iff_right rfl]
    nth_rewrite 2 [← List.map_id ds]
    exact List.map_inj_left
  nth_rewrite 2 [← List.map_id rules]
  rw [List.map_inj_left]
  exact forall₂_congr fun r _ => hrule r

theorem Options.rules_run_eq_self_iff {o : Options} {rules : List Rule} :
    (o.run rules).rules = rules ↔ ∀ name ∈ occurrences rules, o.target name = name := by
  obtain ⟨g, hg⟩ := Declaration.exists_rename o.target
  have hdeclaration : ∀ d, g d = d ↔ ∀ name ∈ d.occurrences, o.target name = name :=
    fun d => Declaration.rename?_eq_self_iff o.lengthens_target (hg d)
  rw [Options.rules_run_eq_map hg, map_declarations_eq_self_iff]
  constructor
  · intro h name hname
    obtain ⟨r, hr, d, hd, hmem⟩ := mem_occurrences.mp hname
    exact (hdeclaration d).mp (h r hr d hd) name hmem
  · intro h r hr d hd
    exact (hdeclaration d).mpr fun name hmem => h name (mem_occurrences.mpr ⟨r, hr, d, hd, hmem⟩)

/-- A run changes nothing exactly if there is neither a strategy that renames nor a leading text, or
if all names that it discovers are excluded. In the first case the map that it delivers takes every
name to itself. -/
theorem run_eq_self_iff (o : Options) (rules : List Rule) :
    ((o.run rules).rules = rules ↔
      (o.strategy = .plain ∧ o.lead = none) ∨
        ∀ name ∈ discovered rules, o.isExcluded name = true) ∧
      (o.strategy = .plain ∧ o.lead = none →
        (o.run rules).map.toList =
          ((discovered rules).filter fun name => !o.isExcluded name).map
            fun name => (name, name)) := by
  constructor
  · rw [Options.rules_run_eq_self_iff]
    simp only [discovered, List.mem_eraseDups, Options.target_eq_self_iff]
    by_cases hplain : o.strategy = .plain ∧ o.lead = none
    · simp [hplain]
    · simp [hplain]
  · intro hplain
    have hentries : (o.run rules).map.toList = o.entries (occurrences rules) :=
      (Walk.knowledge_run o rules).toList
    rw [hentries, Options.entries, discovered]
    refine List.map_congr_left fun name _ => ?_
    rw [Options.decorate_eq_self_iff.mpr hplain]

/-- A kept name, a fallback and a call that never closes: the text stays, and the map takes the two
other names to themselves. -/
theorem run_eq_self_of_plain :
    let o : Options := ⟨.plain, [.exact "kept"], none⟩
    let rules : List Rule := [⟨":root", [⟨"--a", "var(--kept, var(--b)) var(--c"⟩]⟩]
    (o.strategy = .plain ∧ o.lead = none) ∧ (o.run rules).rules = rules ∧
      (o.run rules).map.toList = [("a", "a"), ("b", "b")] := by
  intro o rules
  have hplain : o.strategy = .plain ∧ o.lead = none := ⟨rfl, rfl⟩
  obtain ⟨hrules, hmap⟩ := run_eq_self_iff o rules
  refine ⟨hplain, hrules.mpr (Or.inl hplain), (hmap hplain).trans ?_⟩
  decide +kernel

end CustomProps
