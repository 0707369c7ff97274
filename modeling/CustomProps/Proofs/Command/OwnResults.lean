import CustomProps.Proofs.Command.Course
import CustomProps.Proofs.Command.Places
/-!
# Every stylesheet has results of its own

Renaming the files below a directory leaves for each of them what renaming it alone would have left,
as long as no result is written to a file that is still to be read. Results beside their files never
are; results in another directory are if that directory holds files still to be read.
-/
namespace CustomProps.Command

/-! ### Programs that end well -/

/-- Run with the arguments on the tree, the program settles on the task and ends well. -/
structure Accomplishes (args : List String) (files : FileTree) (k : Task) : Prop where
  settled : ∃ i a, Invocation.read args = .ok i ∧ i.request = some (.rename a) ∧
    i.settle a files = .ok k
  exitCode : (Session.run args files).1.exitCode = 0

variable {args : List String} {files : FileTree} {k : Task}

/-- Every renaming that ends well accomplishes the task that it settles. -/
theorem exists_accomplishes {i : Invocation} {a : RenameArguments}
    (hread : Invocation.read args = .ok i) (ha : i.request = some (.rename a))
    (hexit : (Session.run args files).1.exitCode = 0) : ∃ k, Accomplishes args files k := by
  rcases Session.run_rename files hread ha with
    ⟨f, -, houtcome, -⟩ | ⟨k, r, hsettle, -, -⟩
  · rw [houtcome] at hexit
    exact absurd hexit f.exitCode_ne_zero
  · exact ⟨k, ⟨i, a, hread, ha, hsettle⟩, hexit⟩

namespace Accomplishes

theorem exists_conclusion (h : Accomplishes args files k) :
    ∃ recursive, k.Conclusion recursive files (.ok ()) (Session.run args files).2.files := by
  obtain ⟨i, a, hread, ha, hsettle⟩ := h.settled
  have hexit := h.exitCode
  rcases Session.run_rename files hread ha with
    ⟨f, -, houtcome, -⟩ | ⟨k', r, hsettle', houtcome, hk⟩
  · rw [houtcome] at hexit
    exact absurd hexit f.exitCode_ne_zero
  · rw [hsettle] at hsettle'
    cases hsettle'
    cases r with
    | ok _ => exact ⟨a.recursive, hk⟩
    | error f =>
      rw [houtcome] at hexit
      exact absurd hexit f.exitCode_ne_zero

theorem renamed (h : Accomplishes args files k) (hdirectory : files.isDirectory k.input = true) :
    k.Renamed files (stylesheetsAmong (files.filesBelow k.input))
      (Session.run args files).2.files := by
  obtain ⟨recursive, hk⟩ := h.exists_conclusion
  generalize (Session.run args files).2.files = t' at hk ⊢
  generalize hr : (Except.ok () : Except Failure Unit) = r at hk
  cases hk with
  | alone hfile _ =>
    rw [hdirectory] at hfile
    cases hfile
  | below _ _ h =>
    cases h with
    | done total h => exact h
    | unread => cases hr
    | refused => cases hr
  | notRecursive => cases hr

theorem written (h : Accomplishes args files k) {sheet : Stylesheet}
    (hsheet : stylesheetAt files k.input = .ok sheet) :
    files.Written (results k.options sheet k.outputAlone k.map)
      (Session.run args files).2.files := by
  obtain ⟨recursive, hk⟩ := h.exists_conclusion
  exact hk.written hsheet

end Accomplishes

/-! ### Files below a directory -/

/-- The names lead to `.json` and to `.json.json` of one directory. -/
def AreTwinFiles (names names' : List String) : Prop :=
  ∃ above last last', names = above ++ [last] ∧ names' = above ++ [last'] ∧ AreTwins last last'

theorem areTwinFiles_append_iff {above above' : List String} {last last' : String} :
    AreTwinFiles (above ++ [last]) (above' ++ [last']) ↔ above = above' ∧ AreTwins last last' := by
  constructor
  · rintro ⟨above₁, last₁, last₁', heq, heq', htwins⟩
    obtain ⟨rfl, hlast⟩ := List.append_inj' heq rfl
    obtain ⟨rfl, hlast'⟩ := List.append_inj' heq' rfl
    cases hlast
    cases hlast'
    exact ⟨rfl, htwins⟩
  · rintro ⟨rfl, htwins⟩
    exact ⟨above, last, last', rfl, rfl, htwins⟩

section Below

variable {t' : FileTree} {before after : List (List String)} {names : List String}

theorem Task.Renamed.exists_locate {files : FileTree} {all : List (List String)}
    (h : k.Renamed files all t') {q : Path} (hq : q ∈ all.flatMap k.pathsBelow) :
    ∃ place, t'.locate q = .ok place := by
  obtain ⟨ws, hw, hpaths⟩ := h.exists_written
  rw [← hpaths] at hq
  obtain ⟨w, hmem, rfl⟩ := List.mem_map.mp hq
  exact hw.exists_locate w hmem

theorem pathsBelow_subset {all : List (List String)} (hnames : names ∈ all) {q : Path}
    (hq : q ∈ k.pathsBelow names) : q ∈ all.flatMap k.pathsBelow :=
  List.mem_flatMap.mpr ⟨names, hnames, hq⟩

/-- Only twins share the places of their results. -/
theorem Task.Renamed.same_iff {all : List (List String)} (h : k.Renamed files all t')
    (hlead : ∀ names ∈ all, ∃ above last, names = above ++ [last] ∧ LeadTo above last)
    {names' : List String} (hnames : names ∈ all) (hnames' : names' ∈ all)
    (hne : names ≠ names') :
    (k.outputBelow names = k.outputBelow names' ↔
        k.output = none ∧ AreTwinFiles names names') ∧
      (k.map.isSome → (k.mapBelow names = k.mapBelow names' ↔ AreTwinFiles names names')) := by
  obtain ⟨above, last, rfl, hl⟩ := hlead names hnames
  obtain ⟨above', last', rfl, hl'⟩ := hlead names' hnames'
  rw [areTwinFiles_append_iff]
  refine ⟨⟨fun hsame => ?_, ?_⟩, fun hmap => ⟨fun hsame => ?_, ?_⟩⟩
  · obtain ⟨place, hplace⟩ := h.exists_locate (pathsBelow_subset hnames List.mem_cons_self)
    obtain ⟨rfl, rfl | ⟨hnone, htwins⟩⟩ :=
      eq_of_locate_outputBelow hl hl' hplace (hsame ▸ hplace)
    · exact absurd rfl hne
    · exact ⟨hnone, rfl, htwins⟩
  · rintro ⟨hnone, rfl, htwins⟩
    exact outputBelow_eq hl hl' hnone (Or.inr htwins)
  · obtain ⟨directory, hdirectory⟩ := Option.isSome_iff_exists.mp hmap
    have hp : k.mapBelow (above ++ [last]) = some _ := congrArg (Option.map _) hdirectory
    have hmem : _ ∈ k.pathsBelow (above ++ [last]) :=
      List.mem_cons_of_mem _ (Option.mem_toList.mpr hp)
    obtain ⟨place, hplace⟩ := h.exists_locate (pathsBelow_subset hnames hmem)
    obtain ⟨rfl, rfl | htwins⟩ := eq_of_locate_mapBelow hl hl' hp (hsame ▸ hp) hplace hplace
    · exact absurd rfl hne
    · exact ⟨rfl, htwins⟩
  · rintro ⟨rfl, htwins⟩
    exact mapBelow_eq hl hl' (Or.inr htwins)

/-- A file that none of the results before it was written to holds what it held at first. -/
theorem stylesheetBelow_of_written {t : FileTree} {ws : List (Path × String)}
    (hsound : files.Sound) {root : Place} (hroot : files.Leads k.input.front root)
    (hlead : ∀ other ∈ names :: before, ∃ above last, other = above ++ [last] ∧ LeadTo above last)
    (hw : files.Written ws t) (hpaths : ws.map Prod.fst = before.flatMap k.pathsBelow)
    {sheet : Stylesheet} (hs : k.stylesheetBelow t names = .ok sheet)
    (hext : t.Extends t') (hspared : k.output.isSome → ∀ other ∈ before,
      t'.locate (k.outputBelow other) ≠ t'.locate (k.input.join names)) :
    k.stylesheetBelow files names = .ok sheet := by
  obtain ⟨content, hread, hsame⟩ := exists_of_stylesheetAt hs
  obtain ⟨place, hplace, -⟩ := FileTree.read_eq_ok_iff.mp hread
  refine hsame files ?_
  obtain ⟨above, last, rfl, hl⟩ := hlead names List.mem_cons_self
  refine hsound.read_of_written hroot hl.directories hl.file hw hread fun w hmem => ?_
  have hq : w.1 ∈ before.flatMap k.pathsBelow := hpaths ▸ List.mem_map_of_mem hmem
  obtain ⟨other, hother, hq⟩ := List.mem_flatMap.mp hq
  obtain ⟨above', last', rfl, hl'⟩ := hlead other (List.mem_cons_of_mem _ hother)
  rw [hplace]
  intro hwritten
  -- Only in another directory can a stylesheet have the place of a file that is still to be read.
  rcases List.mem_cons.mp hq with houtput | hmap
  · rw [houtput] at hwritten
    cases hnone : k.output with
    | none => exact locate_input_ne_sibling hl hl' hnone hwritten hplace
    | some directory =>
      exact hspared (hnone ▸ rfl) _ hother
        ((hext.locate hwritten).trans (hext.locate hplace).symm)
  · exact locate_input_ne_map hl hl' (Option.mem_toList.mp hmap) hwritten hplace

/-- What is written for a file is there at the end, unless a file after it has the same path for its
results. -/
theorem read_of_resultsBelow {t t₁ : FileTree} {ws : List (Path × String)} {sheet : Stylesheet}
    (hlead : ∀ other ∈ names :: after, ∃ above last, other = above ++ [last] ∧ LeadTo above last)
    (hw : t.Written (k.resultsBelow sheet names) t₁) (hrest : t₁.Written ws t')
    (hpaths : ws.map Prod.fst = after.flatMap k.pathsBelow) {w : Path × String}
    (hmem : w ∈ k.resultsBelow sheet names) (hlast : w.1 ∉ after.flatMap k.pathsBelow) :
    t'.read w.1 = .ok w.2.toUTF8 := by
  have hall := hw.append hrest
  obtain ⟨above, last, rfl, hl⟩ := hlead names List.mem_cons_self
  have hq : w.1 ∈ k.pathsBelow (above ++ [last]) := by
    rw [← k.map_fst_resultsBelow sheet]
    exact List.mem_map_of_mem hmem
  obtain ⟨place, hplace⟩ := hall.exists_locate w (List.mem_append_left _ hmem)
  have hlater : ∀ v ∈ ws, t'.locate v.1 ≠ t'.locate w.1 := by
    intro v hv hsame
    have hq' : v.1 ∈ after.flatMap k.pathsBelow := hpaths ▸ List.mem_map_of_mem hv
    obtain ⟨other, hother, hq'⟩ := List.mem_flatMap.mp hq'
    obtain ⟨above', last', rfl, hl'⟩ := hlead other (List.mem_cons_of_mem _ hother)
    have heq := eq_of_locate_eq hl hl' hq hq' hplace (hsame.trans hplace)
    exact hlast (List.mem_flatMap.mpr ⟨_, hother, heq ▸ hq'⟩)
  rw [Task.resultsBelow, results] at hmem hall
  -- The map, if there is one, is written after the stylesheet.
  cases hmap : k.mapBelow (above ++ [last]) with
  | none =>
    rw [hmap] at hmem hall
    rw [List.mem_singleton.mp hmem] at hlater ⊢
    exact hall.read_eq_ok hlater
  | some p =>
    rw [hmap] at hmem hall
    rcases List.mem_cons.mp hmem with rfl | hmem
    · refine hall.read_eq_ok fun v hv => ?_
      rcases List.mem_cons.mp hv with rfl | hv
      · intro hsame
        exact locate_output_ne_map hl hl hmap (hsame.trans hplace) hplace
      · exact hlater v hv
    · rw [List.mem_singleton.mp hmem] at hlater ⊢
      have hsplit : t.Written ([_] ++ (p, (k.options.run sheet.rules).map.print) :: ws) t' := hall
      obtain ⟨t₂, -, hmapWritten⟩ := hsplit.exists_of_append
      exact hmapWritten.read_eq_ok hlater

end Below

/-- A run that renames the files below a directory and ends well gives each file results of its own,
twins apart. A file to which no file before it was renamed is read as it was at first, and what
belongs to it is there at the end, unless the results of a file after it have the same path. Renaming
the file alone writes the same. -/
theorem own_results (h : Accomplishes args files k) (hdirectory : files.isDirectory k.input = true)
    (hsound : files.Sound) :
    (∀ names ∈ stylesheetsAmong (files.filesBelow k.input),
      ∀ names' ∈ stylesheetsAmong (files.filesBelow k.input), names ≠ names' →
        (k.outputBelow names = k.outputBelow names' ↔
          k.output = none ∧ AreTwinFiles names names') ∧
        (k.map.isSome → (k.mapBelow names = k.mapBelow names' ↔ AreTwinFiles names names'))) ∧
      ∀ before names after, stylesheetsAmong (files.filesBelow k.input) = before ++ names :: after →
        (k.output.isSome → ∀ other ∈ before,
          (Session.run args files).2.files.locate (k.outputBelow other) ≠
            (Session.run args files).2.files.locate (k.input.join names)) →
        ∃ sheet, k.stylesheetBelow files names = .ok sheet ∧
          (∀ w ∈ k.resultsBelow sheet names, w.1 ∉ after.flatMap k.pathsBelow →
            (Session.run args files).2.files.read w.1 = .ok w.2.toUTF8) ∧
          ∀ args' k', Accomplishes args' files k' → k'.input = k.input.join names →
            k'.options = k.options →
            files.Written (results k.options sheet k'.outputAlone k'.map)
              (Session.run args' files).2.files := by
  obtain ⟨root, hlocate⟩ : ∃ root, files.locate k.input = .ok root := by
    rw [FileTree.isDirectory] at hdirectory
    split at hdirectory
    · exact ⟨_, ‹_›⟩
    · cases hdirectory
  have hroot := FileTree.leads_of_locate hlocate
  have hrenamed := h.renamed hdirectory
  have hlead := exists_leadTo hsound k.input
  refine ⟨fun names hnames names' hnames' hne => hrenamed.same_iff hlead hnames hnames' hne, ?_⟩
  intro before names after hfiles hspared
  rw [hfiles] at hrenamed hlead
  obtain ⟨t₁, t₂, t₃, sheet, hbefore, hmade, hs, hw, hafter⟩ := hrenamed.exists_of_append
  obtain ⟨ws, hwritten, hpaths⟩ := hbefore.exists_written
  obtain ⟨ws', hwritten', hpaths'⟩ := hafter.exists_written
  have hext : t₂.Extends (Session.run args files).2.files :=
    hw.extension.trans hwritten'.extension
  have hsheet : k.stylesheetBelow files names = .ok sheet := by
    refine stylesheetBelow_of_written hsound hroot ?_ (hwritten.append hmade) ?_ hs hext hspared
    · intro other hother
      rcases List.mem_cons.mp hother with rfl | hother
      · exact hlead _ (List.mem_append_right _ List.mem_cons_self)
      · exact hlead _ (List.mem_append_left _ hother)
    · rw [List.append_nil, hpaths]
  refine ⟨sheet, hsheet, fun w hmem hlast => ?_, fun args' k' h' hinput hoptions => ?_⟩
  · exact read_of_resultsBelow (fun other hother => hlead _ (List.mem_append_right _ hother)) hw
      hwritten' hpaths' hmem hlast
  · rw [← hoptions]
    exact h'.written (hinput ▸ hsheet)

/-- Two files of one name in different directories, with maps. -/
theorem own_results_of_nested :
    let tree : FileTree :=
      ⟨[(["in"], .directory), (["in", "a.json"], .file "{}".toUTF8), (["in", "sub"], .directory),
        (["in", "sub", "a.json"], .file "\x7b\"rules\":[\x7b\x7d]\x7d".toUTF8)], []⟩
    let args := ["rename", "in", "-r", "-m", "maps"]
    let k : Task := ⟨⟨.plain, [], none⟩, Path.ofText "in", none, some (Path.ofText "maps")⟩
    Accomplishes args tree k ∧ tree.isDirectory k.input = true ∧ tree.Sound ∧
      (Session.run args tree).2.files.read (Path.ofText "in/sub/a.renamed.json") =
        .ok (Stylesheet.print ⟨[⟨"", []⟩]⟩).toUTF8 := by
  intro tree args k
  let a : RenameArguments :=
    ⟨"in", none, some "maps", none, none, [], [], true, false, .text⟩
  have hread : Invocation.read args = .ok ⟨none, 0, some (.rename a)⟩ := by decide +kernel
  have hexit : (Session.run args tree).1.exitCode = 0 := by
    rw [Session.run, Command.run, hread]
    unfold perform rename renameDirectory renameBelow
    simp only [renameFile, renameStylesheet]
    unfold makeParent makeDirectories
    simp only [stylesheetsAmong_eq_insertionSort, readText, attempt, write, Host.read, Host.write,
      Host.isDirectory, Host.makeDirectory, Host.filesBelow, FileTree.isDirectory,
      FileTree.makeDirectory, FileTree.filesBelow, FileTree.read, FileTree.write, FileTree.target,
      FileTree.locate, FileTree.origin, String.contains_char_eq]
    decide +kernel
  have hk : Accomplishes args tree k := ⟨⟨_, a, hread, rfl, rfl⟩, hexit⟩
  obtain ⟨hdirectory, hbelow, hs⟩ : tree.isDirectory k.input = true ∧
      tree.filesBelow k.input = [["a.json"], ["sub", "a.json"]] ∧
      k.stylesheetBelow tree ["sub", "a.json"] = .ok ⟨[⟨"", []⟩]⟩ := by
    simp only [FileTree.isDirectory, FileTree.filesBelow, Task.stylesheetBelow, stylesheetAt,
      FileTree.read, FileTree.locate, FileTree.origin, String.contains_char_eq]
    decide +kernel
  have hsound : tree.Sound := by decide +kernel
  have hfiles : stylesheetsAmong (tree.filesBelow k.input) =
      [["a.json"]] ++ ["sub", "a.json"] :: [] := by
    rw [hbelow, stylesheetsAmong_eq_insertionSort]
    decide +kernel
  refine ⟨hk, hdirectory, hsound, ?_⟩
  obtain ⟨sheet, hsheet, hresults, -⟩ :=
    (own_results hk hdirectory hsound).2 _ _ _ hfiles fun h => absurd h (by decide)
  rw [hsheet] at hs
  cases hs
  have hrun : (k.options.run [⟨"", []⟩]).rules = [⟨"", []⟩] := by decide +kernel
  have houtput : k.outputBelow ["sub", "a.json"] = Path.ofText "in/sub/a.renamed.json" := by
    decide +kernel
  have hlast := hresults _ List.mem_cons_self List.not_mem_nil
  rwa [houtput, hrun] at hlast

/-- Into a directory below the one that is renamed, a result takes the place of a file that is still to
be read. And of twins beside their files, one has the result of both. -/
theorem results_taken_over :
    (let tree : FileTree :=
        ⟨[(["in"], .directory), (["in", "a.json"], .file "{}".toUTF8), (["in", "sub"], .directory),
          (["in", "sub", "a.json"], .file "\x7b\"rules\":[\x7b\x7d]\x7d".toUTF8)], []⟩
      let args := ["rename", "in", "-r", "-o", "in/sub"]
      let k : Task := ⟨⟨.plain, [], none⟩, Path.ofText "in", some (Path.ofText "in/sub"), none⟩
      Accomplishes args tree k ∧ tree.isDirectory k.input = true ∧ tree.Sound ∧
        ["sub", "a.json"] ∈ stylesheetsAmong (tree.filesBelow k.input) ∧
        ∃ sheet, k.stylesheetBelow tree ["sub", "a.json"] = .ok sheet ∧
          (Session.run args tree).2.files.read (k.outputBelow ["sub", "a.json"]) ≠
            .ok (Stylesheet.print ⟨(k.options.run sheet.rules).rules⟩).toUTF8) ∧
      let tree : FileTree :=
        ⟨[(["in"], .directory), (["in", ".json"], .file "{}".toUTF8),
          (["in", ".json.json"], .file "{}".toUTF8)], []⟩
      let k : Task := ⟨⟨.plain, [], none⟩, Path.ofText "in", none, none⟩
      Accomplishes ["rename", "in", "-r"] tree k ∧ tree.isDirectory k.input = true ∧ tree.Sound ∧
        [".json"] ∈ stylesheetsAmong (tree.filesBelow k.input) ∧
        [".json.json"] ∈ stylesheetsAmong (tree.filesBelow k.input) ∧
        k.outputBelow [".json"] = k.outputBelow [".json.json"] := by
  constructor
  · intro tree args k
    let a : RenameArguments :=
      ⟨"in", some "in/sub", none, none, none, [], [], true, false, .text⟩
    have hread : Invocation.read args = .ok ⟨none, 0, some (.rename a)⟩ := by decide +kernel
    have hrun : (Session.run args tree).1.exitCode = 0 ∧
        (Session.run args tree).2.files.read (k.outputBelow ["sub", "a.json"]) =
          .ok (Stylesheet.print ⟨[]⟩).toUTF8 := by
      rw [Session.run, Command.run, hread]
      unfold perform rename renameDirectory renameBelow makeParent makeDirectories
      simp only [stylesheetsAmong_eq_insertionSort, renameFile, renameStylesheet, readText, attempt,
        write, Host.read, Host.write, Host.isDirectory, Host.makeDirectory, Host.filesBelow,
        FileTree.isDirectory, FileTree.makeDirectory, FileTree.filesBelow, FileTree.read,
        FileTree.write, FileTree.target, FileTree.locate, FileTree.origin, String.contains_char_eq]
      decide +kernel
    obtain ⟨hdirectory, hbelow, hs⟩ : tree.isDirectory k.input = true ∧
        tree.filesBelow k.input = [["a.json"], ["sub", "a.json"]] ∧
        k.stylesheetBelow tree ["sub", "a.json"] = .ok ⟨[⟨"", []⟩]⟩ := by
      simp only [FileTree.isDirectory, FileTree.filesBelow, Task.stylesheetBelow, stylesheetAt,
        FileTree.read, FileTree.locate, FileTree.origin, String.contains_char_eq]
      decide +kernel
    refine ⟨⟨⟨_, a, hread, rfl, rfl⟩, hrun.1⟩, hdirectory, by decide +kernel, ?_, _, hs, ?_⟩
    · rw [stylesheetsAmong, List.mem_mergeSort, List.mem_filter, hbelow]
      exact ⟨by simp, by decide +kernel⟩
    · rw [hrun.2]
      decide +kernel
  · intro tree k
    let a : RenameArguments := ⟨"in", none, none, none, none, [], [], true, false, .text⟩
    have hread : Invocation.read ["rename", "in", "-r"] =
        .ok ⟨none, 0, some (.rename a)⟩ := by decide +kernel
    have hexit : (Session.run ["rename", "in", "-r"] tree).1.exitCode = 0 := by
      rw [Session.run, Command.run, hread]
      unfold perform rename renameDirectory renameBelow
      simp only [stylesheetsAmong_eq_insertionSort, renameFile, renameStylesheet, readText, attempt,
        write, Host.read, Host.write, Host.isDirectory, Host.filesBelow, FileTree.isDirectory,
        FileTree.filesBelow, FileTree.read, FileTree.write, FileTree.target, FileTree.locate,
        FileTree.origin, String.contains_char_eq]
      decide +kernel
    obtain ⟨hdirectory, hbelow⟩ : tree.isDirectory k.input = true ∧
        tree.filesBelow k.input = [[".json"], [".json.json"]] := by
      simp only [FileTree.isDirectory, FileTree.filesBelow, FileTree.locate, FileTree.origin,
        String.contains_char_eq]
      decide +kernel
    have hmem (name : String) (hname : name = ".json" ∨ name = ".json.json") :
        [name] ∈ stylesheetsAmong (tree.filesBelow k.input) := by
      rw [stylesheetsAmong, List.mem_mergeSort, List.mem_filter, hbelow]
      rcases hname with rfl | rfl
      · exact ⟨by simp, by decide +kernel⟩
      · exact ⟨by simp, by decide +kernel⟩
    exact ⟨⟨⟨_, a, hread, rfl, rfl⟩, hexit⟩, hdirectory, by decide +kernel, hmem _ (Or.inl rfl),
      hmem _ (Or.inr rfl), by decide +kernel⟩

end CustomProps.Command
