import CustomProps.Proofs.Counters
import CustomProps.Proofs.Diary
/-!
# The report as a preview of a run

The report of a stylesheet is made without a run, and leaves declarations out. It still speaks of all
that a run meets: the names in the order in which they are resolved, the calls that never close, and
every declaration that a run changes.
-/
namespace CustomProps

/-- The names that an entry speaks of: the declared one, then those referred to. -/
def ReportEntry.names (e : ReportEntry) : List String :=
  e.declares.toList ++ e.usages.map Usage.name

/-- The declarations that a run changes, each with the number and the selector of its rule. -/
def Options.changed (o : Options) (rules : List Rule) : List (Nat × String × Declaration) :=
  (rules.zip (o.run rules).rules).zipIdx.flatMap fun r =>
    ((r.1.1.declarations.zip r.1.2.declarations).filter fun d => d.2 != d.1).map fun d =>
      (r.2, r.1.1.selector, d.1)

/-! ### Entries -/

/-- A declaration is left out of the report only if there is nothing to say of it. -/
theorem ReportEntry.ofDeclaration?_cases (i : Nat) (selector : String) (d : Declaration) :
    (ofDeclaration? i selector d = none ∧ d.occurrences = [] ∧
        (Value.scan d.value).unterminatedAt = none) ∨
      ∃ e, ofDeclaration? i selector d = some e ∧ e.names = d.occurrences ∧
        e.unterminatedAt = (Value.scan d.value).unterminatedAt := by
  unfold ofDeclaration?
  dsimp only
  split
  · rename_i hnothing
    simp only [Bool.and_eq_true, Option.isNone_iff_eq_none] at hnothing
    obtain ⟨⟨hdeclares, hempty⟩, hcut⟩ := hnothing
    have hreferences : (Value.scan d.value).references = [] := List.isEmpty_iff.mp hempty
    refine Or.inl ⟨rfl, ?_, hcut⟩
    rw [Declaration.occurrences, hdeclares, Value.Scan.names, hreferences]
    rfl
  · refine Or.inr ⟨_, rfl, ?_, rfl⟩
    rw [names, List.map_map]
    rfl

section Report

variable (i : Nat) (selector : String)

theorem flatMap_names_entries (ds : List Declaration) :
    (ds.filterMap (ReportEntry.ofDeclaration? i selector)).flatMap ReportEntry.names =
      ds.flatMap Declaration.occurrences := by
  induction ds with
  | nil => rfl
  | cons d ds ih =>
    rw [List.filterMap_cons, List.flatMap_cons]
    rcases ReportEntry.ofDeclaration?_cases i selector d with ⟨hnone, hnames, -⟩ | ⟨e, he, hnames, -⟩
    · rw [hnone, hnames, List.nil_append]
      exact ih
    · rw [he, ← hnames, ← ih]
      exact List.flatMap_cons

theorem countP_entries (ds : List Declaration) :
    (ds.filterMap (ReportEntry.ofDeclaration? i selector)).countP (·.unterminatedAt.isSome) =
      ds.countP fun d => (Value.scan d.value).unterminatedAt.isSome := by
  rw [List.countP_filterMap]
  refine List.countP_congr fun d _ => ?_
  rcases ReportEntry.ofDeclaration?_cases i selector d with ⟨hnone, -, hcut⟩ | ⟨e, he, -, hcut⟩
  · simp [hnone, hcut]
  · simp [he, hcut]

/-- A declaration that carries a name has an entry of its own. -/
theorem sublist_entries {g : Declaration → Declaration} (hg : ∀ d, g d ≠ d → d.occurrences ≠ [])
    (ds : List Declaration) :
    (((ds.zip (ds.map g)).filter fun d => d.2 != d.1).map fun d =>
        ReportEntry.ofDeclaration? i selector d.1).Sublist
      ((ds.filterMap (ReportEntry.ofDeclaration? i selector)).map some) := by
  induction ds with
  | nil => exact List.Sublist.refl _
  | cons d ds ih =>
    rw [List.map_cons, List.zip_cons_cons, List.filterMap_cons]
    rcases ReportEntry.ofDeclaration?_cases i selector d with ⟨hnone, hnames, -⟩ | ⟨e, he, -, -⟩
    · -- Left out of the report, so it carries no name, so it is not changed either.
      have hsame : g d = d := by
        by_contra hne
        exact hg d hne hnames
      rw [hnone, List.filter_cons_of_neg (by simp [hsame])]
      exact ih
    · rw [he]
      by_cases hsame : g d = d
      · rw [List.filter_cons_of_neg (by simp [hsame])]
        exact ih.cons (some e)
      · rw [List.filter_cons_of_pos (by simp [hsame]), List.map_cons, he]
        exact ih.cons_cons (some e)

theorem flatMap_names_reportFrom (rules : List Rule) :
    (reportFrom i rules).flatMap ReportEntry.names = occurrences rules := by
  induction rules generalizing i with
  | nil => rfl
  | cons r rules ih =>
    rw [reportFrom, List.flatMap_append, flatMap_names_entries, ih, occurrences_cons]

theorem countP_reportFrom (rules : List Rule) :
    (reportFrom i rules).countP (·.unterminatedAt.isSome) =
      (rules.flatMap Rule.declarations).countP fun d =>
        (Value.scan d.value).unterminatedAt.isSome := by
  induction rules generalizing i with
  | nil => rfl
  | cons r rules ih =>
    rw [reportFrom, List.countP_append, countP_entries, ih, List.flatMap_cons, List.countP_append]

end Report

theorem sublist_reportFrom {o : Options} {g : Declaration → Declaration}
    (hg : ∀ d, d.rename? o.target = some (g d)) (i : Nat) (rules : List Rule) :
    (((rules.zip (rules.map fun r => (⟨r.selector, r.declarations.map g⟩ : Rule))).zipIdx i).flatMap
        fun r => ((r.1.1.declarations.zip r.1.2.declarations).filter fun d => d.2 != d.1).map fun d =>
          ReportEntry.ofDeclaration? r.2 r.1.1.selector d.1).Sublist
      ((reportFrom i rules).map some) := by
  have hcarries : ∀ d, g d ≠ d → d.occurrences ≠ [] := by
    intro d hne hnames
    refine hne ((Declaration.rename?_eq_self_iff o.lengthens_target (hg d)).mpr ?_)
    rw [hnames]
    exact List.forall_mem_nil _
  induction rules generalizing i with
  | nil => exact List.Sublist.refl _
  | cons r rules ih =>
    rw [List.map_cons, List.zip_cons_cons, List.zipIdx_cons, List.flatMap_cons, reportFrom,
      List.map_append]
    exact (sublist_entries i r.selector hcarries r.declarations).append (ih (i + 1))

/-- The names of the report, entry by entry, are those that a run resolves, one for one. So the map
that the run delivers has those of them that are not excluded, as they are first met; the run counts
the names of the report and its calls that never close; and a declaration that the run changes has
an entry in the report. -/
theorem report_run (o : Options) (s : Stylesheet) :
    let names := s.report.flatMap ReportEntry.names
    (Diary.start o).rules s.rules =
        (((Walk.start o).rules s.rules).1, ⟨((Walk.start o).rules s.rules).2, names⟩) ∧
      (o.run s.rules).map.keys = (names.filter fun name => !o.isExcluded name).eraseDups ∧
      (o.run s.rules).stats.namesDiscovered = names.eraseDups.length ∧
      (o.run s.rules).stats.unterminatedValues =
        s.report.countP (fun e => e.unterminatedAt.isSome) ∧
      ((o.changed s.rules).map fun c => ReportEntry.ofDeclaration? c.1 c.2.1 c.2.2).Sublist
        (s.report.map some) := by
  intro names
  have hnames : names = occurrences s.rules := flatMap_names_reportFrom 0 s.rules
  obtain ⟨g, hg⟩ := Declaration.exists_rename o.target
  have hstats := Options.stats_run_eq_tally hg s.rules
  rw [hnames]
  refine ⟨?_, ?_, ?_, ?_, ?_⟩
  · exact Diary.rules_eq (Diary.start o) s.rules
  · rw [← filter_eraseDups]
    exact (Walk.knowledge_run o s.rules).keys_eq
  · rw [hstats]
    rfl
  · rw [hstats]
    exact (countP_reportFrom 0 s.rules).symm
  · have hsublist := sublist_reportFrom hg 0 s.rules
    rw [Options.changed, Options.rules_run_eq_map hg, List.map_flatMap]
    simp only [List.map_map]
    exact hsublist

end CustomProps
