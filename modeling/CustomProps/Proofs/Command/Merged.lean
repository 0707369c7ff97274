import CustomProps.Proofs.Command.Kept
/-!
# Arguments over a configuration

Options come from a configuration, from settings made one after the other, or from arguments that go
over a configuration. All three ways agree: a configuration is the list of its settings, and
arguments over a configuration are the settings of both, in a fixed order. Which names the options
exclude depends on the set of exclusions alone.
-/
namespace CustomProps

/-! ### Settings one after the other -/

theorem Options.foldlM_exclude (o : Options) (entries : List ExclusionEntry) :
    (entries.map Setting.exclude).foldlM set o =
      (entries.mapM ExclusionEntry.compile).map fun es => { o with except := o.except ++ es } := by
  induction entries generalizing o with
  | nil => exact congrArg (fun es => Except.ok { o with except := es }) (List.append_nil _).symm
  | cons e entries ih =>
    rw [List.map_cons, List.foldlM_cons, List.mapM_cons, set]
    cases e.compile with
    | error fault => rfl
    | ok x =>
      -- What the remaining entries add comes behind the first one.
      show List.foldlM set { o with except := o.except ++ [x] } _ = _
      rw [ih]
      cases entries.mapM ExclusionEntry.compile with
      | error fault => rfl
      | ok es =>
        show Except.ok { o with except := o.except ++ [x] ++ es } = Except.ok _
        rw [List.append_assoc]
        rfl

/-- The settings that a configuration makes: the strategy, the exclusions in order, the leading
text. -/
def Config.settings (c : Config) : List Setting :=
  c.strategy.toList.map .strategy ++ c.except.map .exclude ++ c.lead.toList.map .lead

theorem Config.options_eq_ofSettings (c : Config) : c.options = Options.ofSettings c.settings := by
  have hstrategy : (c.strategy.toList.map Setting.strategy).foldlM Options.set .initial =
      (c.strategy.elim (.ok .plain) Strategy.parse).map fun s => ⟨s, [], none⟩ := by
    cases c.strategy with
    | none => rfl
    | some word => exact bind_pure _
  have hlead : ∀ s es, (c.lead.toList.map Setting.lead).foldlM Options.set ⟨s, es, none⟩ =
      .ok ⟨s, es, c.lead⟩ := by
    intro s es
    cases c.lead with
    | none => rfl
    | some text => rfl
  rw [options_eq, Options.ofSettings, settings, List.foldlM_append, List.foldlM_append, hstrategy]
  cases c.strategy.elim (.ok .plain) Strategy.parse with
  | error e => rfl
  | ok s =>
    show (_ >>= fun es => _) = (List.foldlM Options.set ⟨s, [], none⟩ _ >>= fun o => _)
    rw [Options.foldlM_exclude]
    cases c.except.mapM ExclusionEntry.compile with
    | error e => rfl
    | ok es => exact (hlead s es).symm

/-! ### Names that entries exclude -/

/-- An entry excludes its name, or the names that its pattern matches. -/
def ExclusionEntry.excludes (entry : ExclusionEntry) (name : String) : Bool :=
  match entry.compile with
  | .ok e => e.excludes name
  | .error _ => false

theorem ExclusionEntry.exists_mapM_compile_iff {entries : List ExclusionEntry} :
    (∃ es, entries.mapM compile = .ok es) ↔ ∀ entry ∈ entries, ∃ e, entry.compile = .ok e := by
  induction entries with
  | nil => exact ⟨fun _ _ hmem => absurd hmem List.not_mem_nil, fun _ => ⟨[], rfl⟩⟩
  | cons entry entries ih =>
    rw [List.forall_mem_cons, ← ih, List.mapM_cons]
    constructor
    · rintro ⟨es, h⟩
      obtain ⟨e, he, hrest⟩ := exists_of_bind_eq_ok h
      obtain ⟨es, hes, -⟩ := exists_of_bind_eq_ok hrest
      exact ⟨⟨e, he⟩, es, hes⟩
    · rintro ⟨⟨e, he⟩, es, hes⟩
      rw [he, hes]
      exact ⟨e :: es, rfl⟩

theorem ExclusionEntry.any_excludes_of_mapM {entries : List ExclusionEntry} {es : List Exclusion}
    (h : entries.mapM compile = .ok es) (name : String) :
    (es.any fun e => e.excludes name) = entries.any fun entry => entry.excludes name := by
  induction entries generalizing es with
  | nil =>
    cases h
    rfl
  | cons entry entries ih =>
    rw [List.mapM_cons] at h
    obtain ⟨e, he, hrest⟩ := exists_of_bind_eq_ok h
    obtain ⟨es, hes, hmade⟩ := exists_of_bind_eq_ok hrest
    cases hmade
    rw [List.any_cons, List.any_cons, ih hes, excludes, he]

namespace Config

variable {c c' : Config} {o : Options}

theorem isExcluded_iff (h : c.options = .ok o) (name : String) :
    o.isExcluded name = true ↔ ∃ entry ∈ c.except, entry.excludes name = true := by
  obtain ⟨-, hexcept, -⟩ := options_eq_ok_iff.mp h
  rw [Options.isExcluded, ExclusionEntry.any_excludes_of_mapM hexcept, List.any_eq_true]

/-- With the same strategy, the set of exclusions decides whether there are options. -/
theorem exists_options (h : c.options = .ok o) (hstrategy : c'.strategy = c.strategy)
    (hexcept : ∀ entry, entry ∈ c'.except ↔ entry ∈ c.except) :
    ∃ o' : Options, c'.options = .ok o' := by
  obtain ⟨hs, hentries, -⟩ := options_eq_ok_iff.mp h
  have hall := ExclusionEntry.exists_mapM_compile_iff.mp ⟨_, hentries⟩
  obtain ⟨es, hes⟩ := ExclusionEntry.exists_mapM_compile_iff.mpr fun entry hentry =>
    hall entry ((hexcept entry).mp hentry)
  exact ⟨⟨o.strategy, es, c'.lead⟩, options_eq_ok_iff.mpr ⟨by rw [hstrategy, hs], hes, rfl⟩⟩

end Config

/-! ### Arguments and a configuration -/

namespace Command

/-- The exclusions that arguments ask for. -/
def RenameArguments.entries (a : RenameArguments) : List ExclusionEntry :=
  a.exceptNames.map (fun name => .name (PropertyName.stripMarkers name)) ++
    a.exceptPatterns.map .pattern

/-- The settings that arguments and a configuration make together: the strategy of the arguments
goes before that of the configuration, the exclusions of the configuration come before those of the
arguments, and the leading text comes last. -/
def RenameArguments.settings (a : RenameArguments) (file : Config) : List Setting :=
  ((a.strategy.map Strategy.word).or file.strategy).toList.map .strategy ++
    (file.except.map .exclude ++
      (a.exceptNames.map (fun name => .exclude (.name (PropertyName.stripMarkers name))) ++
        (a.exceptPatterns.map (fun text => .exclude (.pattern text)) ++
          (a.lead.or file.lead).toList.map .lead)))

theorem RenameArguments.except_config (a : RenameArguments) (file : Config) :
    (a.config file).except = file.except ++ a.entries :=
  List.append_assoc ..

theorem RenameArguments.settings_config (a : RenameArguments) (file : Config) :
    (a.config file).settings = a.settings file := by
  simp [Config.settings, settings, config, Function.comp_def]

/-- Arguments over a configuration, a configuration alone, and settings one after the other make the
same options or fail alike. What is excluded then is what an entry of the configuration or of the
arguments excludes; the order of the entries does not matter, nor how often they are given. -/
theorem options_config (file : Config) (a : RenameArguments) :
    (a.config file).options = Options.ofSettings (a.settings file) ∧
      file.options = Options.ofSettings file.settings ∧
      ∀ o, (a.config file).options = .ok o →
        (∀ name, o.isExcluded name = true ↔
          (∃ entry ∈ file.except, entry.excludes name = true) ∨
            ∃ entry ∈ a.entries, entry.excludes name = true) ∧
        ∀ (file' : Config) (a' : RenameArguments),
          a'.strategy = a.strategy → file'.strategy = file.strategy →
          (∀ entry, entry ∈ file'.except ∨ entry ∈ a'.entries ↔
            entry ∈ file.except ∨ entry ∈ a.entries) →
          ∃ o', (a'.config file').options = .ok o' ∧
            ∀ name, o'.isExcluded name = o.isExcluded name := by
  refine ⟨?_, file.options_eq_ofSettings, fun o ho => ⟨fun name => ?_, ?_⟩⟩
  · rw [Config.options_eq_ofSettings, a.settings_config]
  · rw [Config.isExcluded_iff ho, a.except_config]
    simp only [List.mem_append, or_and_right, exists_or]
  · intro file' a' hgiven hwritten hentries
    have hsame : ∀ entry, entry ∈ (a'.config file').except ↔ entry ∈ (a.config file).except := by
      intro entry
      rw [a.except_config, a'.except_config, List.mem_append, List.mem_append]
      exact hentries entry
    have hstrategy : (a'.config file').strategy = (a.config file).strategy := by
      rw [RenameArguments.config, RenameArguments.config, hgiven, hwritten]
    obtain ⟨o', ho'⟩ := Config.exists_options ho hstrategy hsame
    refine ⟨o', ho', fun name => Bool.eq_iff_iff.mpr ?_⟩
    rw [Config.isExcluded_iff ho', Config.isExcluded_iff ho]
    simp only [hsame]

/-- The arguments override a strategy that makes no sense, and give one of the exclusions a second
time. Given in other places and another order, the same exclusions exclude the same names. -/
theorem options_config_of_overlap :
    let file : Config := ⟨some "hash", [.name "keep", .name "b"], some "x"⟩
    let a : RenameArguments :=
      ⟨"a.json", none, none, some .debug, none, ["--keep"], [], false, false, .text⟩
    let a' : RenameArguments := { a with exceptNames := ["b", "--keep"] }
    let o : Options := ⟨.debug, [.exact "keep", .exact "b", .exact "keep"], some "x"⟩
    (a.config file).options = .ok o ∧ o.isExcluded "b" = true ∧
      ∃ o', (a'.config ⟨some "hash", [], none⟩).options = .ok o' ∧
        ∀ name, o'.isExcluded name = o.isExcluded name := by
  intro file a a' o
  have hmade : (a.config file).options = .ok o := by
    have hconfig : a.config file =
        ⟨some "debug", [.name "keep", .name "b", .name "keep"], some "x"⟩ := by decide
    rw [hconfig]
    rfl
  obtain ⟨hexcluded, hmembers⟩ := (options_config file a).2.2 o hmade
  refine ⟨hmade, (hexcluded "b").mpr (Or.inl ⟨.name "b", by decide, rfl⟩), ?_⟩
  refine hmembers ⟨some "hash", [], none⟩ a' rfl rfl fun entry => ?_
  have hstrip : PropertyName.stripMarkers "--keep" = "keep" ∧ PropertyName.stripMarkers "b" = "b" := by
    decide
  simp [file, a, a', RenameArguments.entries, hstrip]
  tauto

end Command
end CustomProps
