import CustomProps.Proofs.Capture
import CustomProps.Proofs.Command.Course
import CustomProps.Proofs.Command.Switches
import CustomProps.Proofs.InPlace
/-!
# One more name kept

An exclusion of a single name is looked at by the name alone. So a run with one more name excluded
differs from the run without it at the places of this name and nowhere else. Which name an argument
excludes is a different question: all markers in front of it are taken away, while a property has
one marker and all else is its name.
-/
namespace CustomProps

/-! ### The name that an argument keeps -/

namespace PropertyName

theorem length_strip_le (cs : List Char) : (stripMarkers.strip cs).length ≤ cs.length := by
  induction cs using stripMarkers.strip.induct with
  | case1 cs ih =>
    rw [stripMarkers.strip]
    simp only [List.length_cons]
    omega
  | case2 cs hcs =>
    rw [stripMarkers.strip]
    exact hcs

theorem strip_eq_self_iff (cs : List Char) :
    stripMarkers.strip cs = cs ↔ ¬marker.toList <+: cs := by
  have hmarker : marker.toList = ['-', '-'] := rfl
  rw [hmarker]
  constructor
  · intro hstrip hbegins
    obtain ⟨rest, rfl⟩ := hbegins
    have hshort := length_strip_le rest
    have hlong := congrArg List.length hstrip
    simp only [List.cons_append, List.nil_append, stripMarkers.strip, List.length_cons] at hlong
    omega
  · intro hplain
    rw [stripMarkers.strip]
    rintro rest rfl
    exact hplain ⟨rest, rfl⟩

theorem not_prefix_strip (cs : List Char) : ¬marker.toList <+: stripMarkers.strip cs := by
  induction cs using stripMarkers.strip.induct with
  | case1 cs ih =>
    rw [stripMarkers.strip]
    exact ih
  | case2 cs hcs =>
    have hsame : stripMarkers.strip cs = cs := stripMarkers.strip.eq_2 cs hcs
    rw [← strip_eq_self_iff, hsame, hsame]

/-- A property that is given as it stands in a stylesheet loses one marker, and all that its name
begins with. -/
theorem stripMarkers_eq_iff {prop name : String} (h : ofProp? prop = some name) :
    stripMarkers prop = name ↔ ¬marker.toList <+: name.toList := by
  have hprop : stripMarkers.strip prop.toList = stripMarkers.strip name.toList := by
    rw [marker_append_of_ofProp? h, String.toList_append]
    rfl
  rw [← strip_eq_self_iff, stripMarkers, hprop, ← String.toList_inj, String.toList_ofList]

end PropertyName

/-! ### Runs with one more name kept -/

/-- The options `o` exclude one name more than `bare`, and are the same otherwise. -/
structure Options.Adds (o bare : Options) (name : String) : Prop where
  strategy : o.strategy = bare.strategy
  lead : o.lead = bare.lead
  isExcluded : ∀ other, o.isExcluded other = (bare.isExcluded other || other == name)

/-- What runs under the options `o` make of a stylesheet is what runs under `bare` make of it, except
that `kept` stays as it is everywhere: in what is written in place of the names, and in the names
that are found afterwards. -/
structure Options.Spares (o bare : Options) (kept : String) : Prop where
  rules : ∃ f : Declaration → Declaration,
    (∀ d, d.rename? (fun name => if name = kept then name else bare.target name) = some (f d)) ∧
      (∀ d, PropertyName.ofProp? d.prop = some kept → (f d).prop = d.prop) ∧
      ∀ rules : List Rule,
        (o.run rules).rules = rules.map fun r => ⟨r.selector, r.declarations.map f⟩
  carried : ∀ rules, o.carried rules =
    (bare.carried rules).map fun c => (c.1, if c.1 = kept then some kept else c.2)
  carriers : bare.LeadsPlainly → ∀ rules, carriers (o.run rules).rules =
    List.zipWith (fun c made => if c.name = kept then c else made) (carriers rules)
      (carriers (bare.run rules).rules)
  map : ∀ rules, (o.run rules).map.toList =
    (bare.run rules).map.toList.filter fun entry => entry.1 != kept

namespace Options

variable {o bare : Options} {kept : String}

theorem Adds.decorate (h : o.Adds bare kept) : o.decorate = bare.decorate := by
  funext name
  rw [Options.decorate, Options.decorate, h.strategy, h.lead]

theorem Adds.target (h : o.Adds bare kept) :
    o.target = fun name => if name = kept then name else bare.target name := by
  funext name
  simp only [Options.target, h.isExcluded, h.decorate]
  by_cases hname : name = kept
  · simp [hname]
  · simp [hname]

theorem Adds.entries (h : o.Adds bare kept) (names : List String) :
    o.entries names = (bare.entries names).filter fun entry => entry.1 != kept := by
  simp only [Options.entries, List.filter_map, List.filter_filter, h.isExcluded, h.decorate]
  refine congrArg (List.map _) (List.filter_congr fun name _ => ?_)
  simp [Bool.and_comm, bne]

theorem Adds.spares (h : o.Adds bare kept) : o.Spares bare kept where
  rules := by
    obtain ⟨f, hf⟩ := Declaration.exists_rename o.target
    refine ⟨f, ?_, ?_, fun rules => Options.rules_run_eq_map hf rules⟩
    · rw [← h.target]
      exact hf
    · intro d hd
      obtain ⟨value, -, hmade⟩ := Option.map_eq_some_iff.mp (hf d)
      rw [← hmade]
      dsimp only
      rw [PropertyName.rename, hd]
      dsimp only
      rw [h.target]
      dsimp only
      rw [if_pos rfl, PropertyName.marker_append_of_ofProp? hd]
  carried := by
    intro rules
    rw [carried_eq, carried_eq, List.map_map, h.target]
    refine List.map_congr_left fun name _ => ?_
    dsimp only [Function.comp_apply]
    split
    · rename_i hname
      rw [hname]
    · rfl
  carriers := by
    intro hbare rules
    have ho : o.LeadsPlainly := fun lead hlead => hbare lead (h.lead ▸ hlead)
    rw [carriers_run ho, carriers_run hbare, List.zipWith_map_right, List.zipWith_self, h.target]
    refine List.map_congr_left fun c _ => ?_
    split
    · rename_i hname
      rw [Carrier.renamed, if_pos hname]
    · rename_i hname
      rw [Carrier.renamed, Carrier.renamed, if_neg hname]
  map := by
    intro rules
    have hentries : ∀ o : Options, (o.run rules).map.toList = o.entries (occurrences rules) :=
      fun o => (Walk.knowledge_run o rules).toList
    rw [hentries, hentries, h.entries]

/-- Where an exclusion stands among the others does not matter. -/
theorem adds_of_except {before after : List Exclusion} (hbare : bare.except = before ++ after)
    (name : String) :
    ({ bare with except := before ++ .exact name :: after } : Options).Adds bare name where
  strategy := rfl
  lead := rfl
  isExcluded := by
    intro other
    have hname : (Exclusion.exact name).excludes other = (other == name) := Bool.beq_comm
    simp only [Options.isExcluded, hbare, List.any_append, List.any_cons, hname]
    cases (other == name) <;> simp

end Options

/-! ### Configurations with one more name excluded -/

theorem Config.options_eq (c : Config) : c.options = (do
    let strategy ← c.strategy.elim (.ok .plain) Strategy.parse
    let except ← c.except.mapM ExclusionEntry.compile
    return ⟨strategy, except, c.lead⟩) := by
  unfold Config.options
  cases c.strategy with
  | none => rfl
  | some word => rfl

theorem Config.options_eq_ok_iff {c : Config} {o : Options} : c.options = .ok o ↔
    c.strategy.elim (.ok .plain) Strategy.parse = .ok o.strategy ∧
      c.except.mapM ExclusionEntry.compile = .ok o.except ∧ c.lead = o.lead := by
  rw [options_eq]
  constructor
  · intro h
    obtain ⟨strategy, hstrategy, hrest⟩ := exists_of_bind_eq_ok h
    obtain ⟨except, hexcept, hmade⟩ := exists_of_bind_eq_ok hrest
    cases hmade
    exact ⟨hstrategy, hexcept, rfl⟩
  · intro ⟨hstrategy, hexcept, hlead⟩
    rw [hstrategy, hexcept, hlead]
    rfl

theorem Config.options_insert {c : Config} {before after : List ExclusionEntry} {o : Options}
    (hc : c.except = before ++ after) (h : c.options = .ok o) (name : String) :
    ∃ o' : Options, ({ c with except := before ++ .name name :: after } : Config).options = .ok o' ∧
      o'.Adds o name := by
  obtain ⟨hstrategy, hexcept, hlead⟩ := options_eq_ok_iff.mp h
  rw [hc, List.mapM_append] at hexcept
  obtain ⟨first, hfirst, hlater⟩ := exists_of_bind_eq_ok hexcept
  obtain ⟨last, hlast, hmade⟩ := exists_of_bind_eq_ok hlater
  have hmore : (before ++ .name name :: after).mapM ExclusionEntry.compile =
      .ok (first ++ .exact name :: last) := by
    rw [List.mapM_append, List.mapM_cons, hfirst, hlast]
    rfl
  exact ⟨{ o with except := first ++ .exact name :: last },
    options_eq_ok_iff.mpr ⟨hstrategy, hmore, hlead⟩,
    Options.adds_of_except (Except.ok.inj hmade).symm name⟩

namespace Command

/-- A renaming with one more name for an exclusion settles what it settles without, with this one
name more excluded. -/
theorem RenameArguments.task_keeping {a : RenameArguments} {file : ConfigFile} {k : Task}
    (h : a.task file = .ok k) (name : String) : ∃ o : Options,
      (a.keeping (a.exceptNames ++ [name])).task file = .ok { k with options := o } ∧
        o.Adds k.options (PropertyName.stripMarkers name) := by
  let before := file.config.except ++
    a.exceptNames.map fun name => ExclusionEntry.name (PropertyName.stripMarkers name)
  let after := a.exceptPatterns.map ExclusionEntry.pattern
  have hconfig : ((a.keeping (a.exceptNames ++ [name])).config file.config) =
      { a.config file.config with
        except := before ++ .name (PropertyName.stripMarkers name) :: after } := by
    simp [RenameArguments.config, RenameArguments.keeping, before, after]
  unfold task at h ⊢
  split at h
  · cases h
  · rename_i o hoptions
    cases h
    obtain ⟨o', ho', hadds⟩ :=
      Config.options_insert (show (a.config file.config).except = before ++ after from rfl) hoptions
        (PropertyName.stripMarkers name)
    refine ⟨o', ?_, hadds⟩
    rw [hconfig, ho']
    rfl

theorem Invocation.settle_keeping {i : Invocation} {a : RenameArguments} {t : FileTree} {k : Task}
    (h : i.settle a t = .ok k) (request : Option Request) (name : String) :
    ∃ o : Options, ({ i with request := request } : Invocation).settle
        (a.keeping (a.exceptNames ++ [name])) t = .ok { k with options := o } ∧
      o.Adds k.options (PropertyName.stripMarkers name) := by
  unfold settle at h ⊢
  split at h
  · cases h
  · rename_i file hfile
    dsimp only
    rw [hfile]
    exact RenameArguments.task_keeping h name

/-- One more exclusion by its name, given behind all other arguments: whatever a renaming settles on
a tree, it settles with the exclusion as well, only that a run spares the given name without the
markers in front of it. No name that begins with a marker is spared in this way. So a property
that is given is spared exactly if its name begins with none. -/
theorem spares_except {args : List String} {i : Invocation} {a : RenameArguments}
    (h : Invocation.read args = .ok i) (ha : i.request = some (.rename a)) (hargs : "--" ∉ args)
    (given : String) :
    (∀ (files : FileTree) (k : Task), i.settle a files = .ok k →
      ∃ (o : Options) (r : Except Failure Unit),
        o.Spares k.options (PropertyName.stripMarkers given) ∧
          (Session.run (args ++ ["--except=" ++ given]) files).1 = .ofExcept r ∧
          ({ k with options := o } : Task).Conclusion a.recursive files r
            (Session.run (args ++ ["--except=" ++ given]) files).2.files) ∧
      ¬PropertyName.marker.toList <+: (PropertyName.stripMarkers given).toList ∧
      ∀ name, PropertyName.ofProp? given = some name →
        (PropertyName.stripMarkers given = name ↔ ¬PropertyName.marker.toList <+: name.toList) := by
  refine ⟨fun files k hk => ?_, ?_, fun name => PropertyName.stripMarkers_eq_iff⟩
  · have hread := Invocation.read_append_except h ha hargs given
    obtain ⟨o, hsettle, hadds⟩ := Invocation.settle_keeping hk
      (some (.rename (a.keeping (a.exceptNames ++ [given])))) given
    have hargument : exceptArgument given = "--except=" ++ given := by
      simp [exceptArgument]
    rw [hargument] at hread
    rcases Session.run_rename files hread rfl with ⟨f, hf, -⟩ | ⟨k', r, hk', hrun, hconclusion⟩
    · cases hsettle.symm.trans hf
    · cases hsettle.symm.trans hk'
      exact ⟨o, r, hadds.spares, hrun, hconclusion⟩
  · rw [PropertyName.stripMarkers, String.toList_ofList]
    exact PropertyName.not_prefix_strip given.toList

/-- A property under the debug strategy, given with its marker and without other exclusions: its
declaration and the reference to it stay, the reference beside it is renamed. -/
theorem spares_except_of_debug :
    let args := ["rename", "a.json", "-s", "debug"]
    let a : RenameArguments :=
      ⟨"a.json", none, none, some .debug, none, [], [], false, false, .text⟩
    let i : Invocation := ⟨none, 0, some (.rename a)⟩
    let tree : FileTree :=
      ⟨[(["a.json"], .file ("\x7b\"rules\":[\x7b\"selector\":\":root\",\"declarations\":[" ++
        "\x7b\"prop\":\"--a\",\"value\":\"1px\"\x7d," ++
        "\x7b\"prop\":\"width\",\"value\":\"var(--a) var(--b)\"\x7d]\x7d]\x7d").toUTF8)], []⟩
    Invocation.read args = .ok i ∧ i.request = some (.rename a) ∧ "--" ∉ args ∧
      (Session.run (args ++ ["--except=" ++ "--a"]) tree).1.exitCode = 0 ∧
      (Session.run (args ++ ["--except=" ++ "--a"]) tree).2.files.read
          (Path.ofText "a.renamed.json") =
        .ok (Stylesheet.print
          ⟨[⟨":root", [⟨"--a", "1px"⟩, ⟨"width", "var(--a) var(--b_)"⟩]⟩]⟩).toUTF8 := by
  intro args a i tree
  have hread : Invocation.read args = .ok i := by decide +kernel
  have hopen : "--" ∉ args := by decide
  obtain ⟨hspares, -, -⟩ := spares_except hread rfl hopen "--a"
  let k : Task := ⟨⟨.debug, [], none⟩, Path.ofText "a.json", none, none⟩
  obtain ⟨o, r, ho, hrun, hconclusion⟩ := hspares tree k rfl
  let rules : List Rule := [⟨":root", [⟨"--a", "1px"⟩, ⟨"width", "var(--a) var(--b)"⟩]⟩]
  have hsheet : stylesheetAt tree k.input = .ok ⟨rules⟩ := by
    simp only [stylesheetAt, FileTree.read, FileTree.locate, FileTree.origin,
      String.contains_char_eq]
    decide +kernel
  have hrules : (o.run rules).rules =
      [⟨":root", [⟨"--a", "1px"⟩, ⟨"width", "var(--a) var(--b_)"⟩]⟩] := by
    obtain ⟨f, hf, -, hmade⟩ := ho.rules
    have hgiven : PropertyName.stripMarkers "--a" = "a" := by decide
    rw [hgiven] at hf
    have hkept : f ⟨"--a", "1px"⟩ = ⟨"--a", "1px"⟩ :=
      Option.some.inj ((hf _).symm.trans (by decide +kernel))
    have hother : f ⟨"width", "var(--a) var(--b)"⟩ = ⟨"width", "var(--a) var(--b_)"⟩ :=
      Option.some.inj ((hf _).symm.trans (by decide +kernel))
    rw [hmade, List.map_singleton, List.map_cons, List.map_singleton, hkept, hother]
  have houtput : tree.target (k.input.sibling renamedEnding) =
      .ok (.named ["a.renamed.json"]) := by
    simp only [FileTree.target, FileTree.origin, String.contains_char_eq]
    decide +kernel
  have hwrite : ∀ content, tree.write (k.input.sibling renamedEnding) content =
      .ok (tree.put ["a.renamed.json"] (.file content)) := by
    intro content
    rw [FileTree.write, houtput]
    rfl
  cases hconclusion.eq_ok hsheet rfl (hwrite _)
  have hwritten := hconclusion.written hsheet
  have hcontent := hwritten.read_eq_ok fun w hw => absurd hw List.not_mem_nil
  rw [hrules] at hcontent
  have hpath : k.input.sibling renamedEnding = Path.ofText "a.renamed.json" := by decide
  rw [hrun]
  exact ⟨hread, rfl, hopen, rfl, hpath ▸ hcontent⟩

/-- The name of the property `----a` begins with a marker. Given for an exclusion it keeps `a`, and
under the debug strategy the property is renamed and its name has an entry in the map. -/
theorem renamed_of_except_marker :
    let args := ["rename", "a.json", "-s", "debug", "--except=----a"]
    let a : RenameArguments :=
      ⟨"a.json", none, none, some .debug, none, ["----a"], [], false, false, .text⟩
    let o : Options := ⟨.debug, [.exact "a"], none⟩
    let rules : List Rule := [⟨":root", [⟨"----a", "1px"⟩]⟩]
    PropertyName.ofProp? "----a" = some "--a" ∧
      Invocation.read args = .ok ⟨none, 0, some (.rename a)⟩ ∧
      (a.config .empty).options = .ok o ∧
      (o.run rules).rules = [⟨":root", [⟨"----a_", "1px"⟩]⟩] ∧
      (o.run rules).map.toList = [("--a", "--a_")] := by
  intro args a o rules
  have hconfig : a.config .empty = ⟨some "debug", [.name "a"], none⟩ := by decide +kernel
  refine ⟨by decide, by decide +kernel, by rw [hconfig]; rfl, ?_, ?_⟩
  · obtain ⟨f, hf⟩ := Declaration.exists_rename o.target
    have hd : f ⟨"----a", "1px"⟩ = ⟨"----a_", "1px"⟩ :=
      Option.some.inj ((hf _).symm.trans (by decide +kernel))
    rw [Options.rules_run_eq_map hf, List.map_singleton, List.map_singleton, hd]
  · have hentries : (o.run rules).map.toList = o.entries (occurrences rules) :=
      (Walk.knowledge_run o rules).toList
    rw [hentries]
    decide +kernel

end Command
end CustomProps
