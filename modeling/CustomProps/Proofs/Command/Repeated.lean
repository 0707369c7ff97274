import CustomProps.Proofs.Command.Course
import CustomProps.Proofs.Command.Places
import CustomProps.Proofs.Command.Repeatable
/-!
# A directory renamed twice

Results beside their files and maps have names that no stylesheet file has. So renaming the files
below a directory never writes what it reads, wherever the maps go; it finds the same files once
more, and where it succeeded it does the same again.
-/
namespace CustomProps.Command

/-! ### The files that are found -/

theorem stylesheetsAmong_filesBelow {t t' : FileTree} {ws : List (Path × String)}
    (h : FileTree.WrittenWithin IsResultPlace t ws t') {p : Path} (hp : t.isDirectory p = true) :
    stylesheetsAmong (t'.filesBelow p) = stylesheetsAmong (t.filesBelow p) := by
  have hkeep : ∀ (place : Place) n, IsResultPlace place →
      ((place.drop n).getLast?.any isStylesheetName) = false := by
    intro place n hplace
    rw [List.getLast?_drop]
    split
    · rfl
    · obtain ⟨name, hname, hresult⟩ := (Option.any_eq_true _ _).mp hplace
      rw [hname, Option.any_some]
      cases hstylesheet : isStylesheetName name with
      | false => rfl
      | true =>
        rw [isResultName_of_isStylesheetName hstylesheet] at hresult
        cases hresult
  rw [stylesheetsAmong, stylesheetsAmong, FileTree.filter_filesBelow_of_written hkeep h hp]

/-! ### The command -/

variable {level : Log.Level} {file : Config} {a : RenameArguments} {input : Path}
  {map : Option Path}

theorem repeatable_renameBelow {names : List String} (h : AreStylesheetNames names) :
    Repeatable IsResultPlace
      (renameBelow level file a input none map names : Action (StateM Session) Stats) := by
  refine Repeatable.renameFile (fun t place => h.not_isResultPlace)
    (fun t place => h.isResultPlace_sibling (Or.inl rfl)) fun p hp t place hl => ?_
  obtain ⟨directory, -, rfl⟩ := Option.map_eq_some_iff.mp hp
  exact h.isResultPlace_sibling (Or.inr rfl) hl

/-- Renames the files that were found below a directory. -/
def renameFound (level : Log.Level) (file : Config) (a : RenameArguments) (input : Path)
    (map : Option Path) (files : List (List String)) : Action (StateM Session) Stats := do
  if files.isEmpty then log level [.directoryEmpty input.text]
  files.foldlM (fun total names => do
    return total + (← renameBelow level file a input none map names)) Stats.zero

/-- What is reported of a renaming that succeeded. -/
def reportRenamed (level : Log.Level) (a : RenameArguments) (stats : Stats) :
    Action (StateM Session) Unit := do
  print (.text "✅ Rename successful!")
  print .elapsed
  if a.showsStats then
    match a.format with
    | .json => print (.text stats.toJson.pretty)
    | .text => printAll stats.summary
  log level [.commandEnded]

theorem repeatable_renameFound {files : List (List String)}
    (h : ∀ names ∈ files, AreStylesheetNames names) :
    Repeatable IsResultPlace (renameFound level file a input map files) := by
  have hfiles : Repeatable IsResultPlace (files.foldlM (fun total names => do
      return total + (← renameBelow level file a input none map names)) Stats.zero :
        Action (StateM Session) Stats) := by
    apply Repeatable.foldlM
    intro total names hnames
    exact (repeatable_renameBelow (h names hnames)).bind fun stats => .pure _
  unfold renameFound
  split
  · apply Repeatable.bind (.log _ _)
    intro _
    exact hfiles
  · exact hfiles

/-- The renaming of the stylesheet files that a tree has below the directory. -/
def renameAll (level : Log.Level) (file : Config) (a : RenameArguments) (t : FileTree) :
    Action (StateM Session) Unit := do
  let input := Path.ofText a.input
  reportRenamed level a (← renameFound level file a input (a.map.map Path.ofText)
    (stylesheetsAmong (t.filesBelow input)))

theorem repeatable_renameAll (level : Log.Level) (file : Config) (a : RenameArguments)
    (t : FileTree) : Repeatable IsResultPlace (renameAll level file a t) := by
  unfold renameAll
  apply Repeatable.bind
  · exact repeatable_renameFound fun names hnames => areStylesheetNames_of_mem hnames
  · intro stats
    exact .of_report fun _ _ _ h => Ends.of_closing h

section

variable {α : Type} {s s' : Session} {r : Except Failure α}

theorem ends_isDirectory_iff {p : Path} {k : Bool → Action (StateM Session) α} :
    Ends (ExceptT.lift (Host.isDirectory p) >>= k) s r s' ↔
      Ends (k (s.files.isDirectory p)) s r s' := Iff.rfl

theorem ends_renameDirectory_iff {k : Stats → Action (StateM Session) α} :
    Ends (renameDirectory level file a input none map >>= k) s r s' ↔
      Ends (renameFound level file a input map (stylesheetsAmong (s.files.filesBelow input)) >>= k)
        s r s' := Iff.rfl

theorem ends_buildOptions_iff {o : Options} (ho : (a.config file).options = .ok o)
    {k : Options → Action (StateM Session) α} :
    Ends (buildOptions file a >>= k) s r s' ↔ Ends (k o) s r s' := by
  unfold buildOptions
  rw [ho]
  exact Iff.rfl

end

theorem ends_perform_iff {i : Invocation} {a : RenameArguments} {s s' : Session}
    {r : Except Failure Unit} (ha : i.request = some (.rename a)) (hconfig : i.config = none)
    (houtput : a.output = none) (hrecursive : a.recursive = true) {o : Options}
    (hoptions : (a.config .empty).options = .ok o)
    (hdirectory : s.files.isDirectory (Path.ofText a.input) = true) :
    Ends (perform i) s r s' ↔
      Ends (renameAll (Log.Level.ofVerbosity i.verbosity) .empty a s.files) s r s' := by
  have hrename : Ends (perform i) s r s' ↔
      Ends (rename (Log.Level.ofVerbosity i.verbosity) .empty a) s r s' := by
    unfold perform
    rw [ha, hconfig]
    rfl
  have hmap : a.map.or ConfigFile.empty.mapFile = a.map := Option.or_none
  rw [hrename]
  unfold rename
  have hbuilt : (a.config ConfigFile.empty.config).options = .ok o := hoptions
  rw [houtput, hmap]
  dsimp only
  rw [ends_buildOptions_iff hbuilt, ends_isDirectory_iff, hdirectory, if_pos rfl, hrecursive,
    if_pos rfl]
  exact ends_renameDirectory_iff

section

variable {args : List String} {i : Invocation} {a : RenameArguments} {files : FileTree}

/-- The run writes results only, and where it succeeded the same run after it writes the same. -/
theorem Session.exists_writtenWithin (hread : Invocation.read args = .ok i)
    (ha : i.request = some (.rename a)) (hconfig : i.config = none) (houtput : a.output = none)
    (hrecursive : a.recursive = true)
    (hdirectory : files.isDirectory (Path.ofText a.input) = true) :
    ∃ ws, FileTree.WrittenWithin IsResultPlace files ws (run args files).2.files ∧
      ((run args files).1.exitCode = 0 →
        (run args (run args files).2.files).1.exitCode = 0 ∧
          (run args files).2.files.Rewrites ws (run args (run args files).2.files).2.files) := by
  rcases run_rename files hread ha with ⟨f, -, houtcome, hfiles⟩ | ⟨k, r, hsettle, -⟩
  · rw [hfiles]
    refine ⟨[], .nothing files, fun hexit => ?_⟩
    rw [houtcome] at hexit
    exact absurd hexit f.exitCode_ne_zero
  · have hoptions : (a.config .empty).options = .ok k.options := by
      rw [Invocation.settle, hconfig, configAt] at hsettle
      exact RenameArguments.options_task hsettle
    have hiff : ∀ (t : FileTree) r s', t.isDirectory (Path.ofText a.input) = true →
        (Ends (perform i) (start t) r s' ↔
          Ends (renameAll (Log.Level.ofVerbosity i.verbosity) .empty a t) (start t) r s') :=
      fun t r s' ht => ends_perform_iff ha hconfig houtput hrecursive hoptions ht
    obtain ⟨r, s', hrun, hends⟩ := exists_run_of_read files hread
    obtain ⟨ws, hwithin, hagain⟩ :=
      repeatable_renameAll _ _ _ _ _ _ _ ((hiff files r s' hdirectory).mp hends)
    rw [hrun]
    refine ⟨ws, hwithin, fun hexit => ?_⟩
    cases r with
    | error f => exact absurd hexit f.exitCode_ne_zero
    | ok _ =>
      obtain ⟨u', hu', hrewrites⟩ := hagain () rfl (start s'.files) (.refl s'.files)
      have hdirectory' := hwithin.written.extension.isDirectory hdirectory
      have hlist : stylesheetsAmong (s'.files.filesBelow (Path.ofText a.input)) =
          stylesheetsAmong (files.filesBelow (Path.ofText a.input)) :=
        stylesheetsAmong_filesBelow hwithin hdirectory
      have hsame : renameAll (Log.Level.ofVerbosity i.verbosity) .empty a s'.files =
          renameAll (Log.Level.ofVerbosity i.verbosity) .empty a files := by
        unfold renameAll
        dsimp only
        rw [hlist]
      obtain ⟨r'', s'', hrun', hends'⟩ := exists_run_of_read s'.files hread
      rw [hiff s'.files r'' s'' hdirectory', hsame] at hends'
      cases Eq.trans (Eq.symm hends') hu'
      rw [hrun']
      exact ⟨rfl, hrewrites⟩

/-- A directory that is renamed without a configuration file and without another directory for the
results: the run changes no file but results and maps, by their names, so no stylesheet file that it
finds; the files found are the same before and after; and if it succeeds, the same run once more
succeeds as well and changes nothing. -/
theorem repeated_run (hread : Invocation.read args = .ok i) (ha : i.request = some (.rename a))
    (hconfig : i.config = none) (houtput : a.output = none) (hrecursive : a.recursive = true)
    (hdirectory : files.isDirectory (Path.ofText a.input) = true) :
    let after := (Session.run args files).2.files
    (∀ place, ¬IsResultPlace place → ∀ content,
        after.entry? place = some (.file content) ↔ files.entry? place = some (.file content)) ∧
      (∀ names ∈ stylesheetsAmong (files.filesBelow (Path.ofText a.input)), ∀ content,
        files.read ((Path.ofText a.input).join names) = .ok content →
          after.read ((Path.ofText a.input).join names) = .ok content) ∧
      stylesheetsAmong (after.filesBelow (Path.ofText a.input)) =
        stylesheetsAmong (files.filesBelow (Path.ofText a.input)) ∧
      ((Session.run args files).1.exitCode = 0 →
        (Session.run args after).1.exitCode = 0 ∧
          ∀ place, FileTree.entry? (Session.run args after).2.files place = after.entry? place) := by
  intro after
  obtain ⟨ws, hwithin, hagain⟩ :=
    Session.exists_writtenWithin hread ha hconfig houtput hrecursive hdirectory
  refine ⟨fun place hplace content => hwithin.file_iff hplace content, ?_,
    stylesheetsAmong_filesBelow hwithin hdirectory, fun hexit => ?_⟩
  · intro names hnames content hcontent
    have hspared : ∀ place, files.locate ((Path.ofText a.input).join names) = .ok place →
        ¬IsResultPlace place := fun _ => (areStylesheetNames_of_mem hnames).not_isResultPlace
    exact hwithin.continues.read hspared hcontent
  · obtain ⟨hexit', hrewrites⟩ := hagain hexit
    exact ⟨hexit', hrewrites.entry?_eq hwithin.written⟩

end

/-- Files in two directories, with maps in a third below the one that is renamed. -/
theorem repeated_run_of_nested :
    let tree : FileTree :=
      ⟨[(["in"], .directory), (["in", "a.json"], .file "{}".toUTF8), (["in", "sub"], .directory),
        (["in", "sub", "a.json"], .file "\x7b\"rules\":[\x7b\x7d]\x7d".toUTF8)], []⟩
    let args := ["rename", "in", "-r", "-m", "in/maps"]
    let a : RenameArguments :=
      ⟨"in", none, some "in/maps", none, none, [], [], true, false, .text⟩
    let i : Invocation := ⟨none, 0, some (.rename a)⟩
    let after := (Session.run args tree).2.files
    Invocation.read args = .ok i ∧ tree.isDirectory (Path.ofText a.input) = true ∧
      stylesheetsAmong (after.filesBelow (Path.ofText a.input)) = [["a.json"], ["sub", "a.json"]] ∧
      (Session.run args tree).1.exitCode = 0 ∧ (Session.run args after).1.exitCode = 0 := by
  intro tree args a i after
  have hread : Invocation.read args = .ok i := by decide +kernel
  have hexit : (Session.run args tree).1.exitCode = 0 := by
    rw [Session.run, Command.run, hread]
    unfold perform rename renameDirectory renameBelow
    simp only [renameFile, renameStylesheet]
    unfold makeParent makeDirectories
    simp only [stylesheetsAmong_eq_insertionSort, readText, attempt, write, Host.read, Host.write,
      Host.isDirectory, Host.makeDirectory, Host.filesBelow, FileTree.isDirectory,
      FileTree.makeDirectory, FileTree.filesBelow, FileTree.read, FileTree.write, FileTree.target,
      FileTree.locate, FileTree.origin, String.contains_char_eq]
    decide +kernel
  obtain ⟨hdirectory, hbelow⟩ : tree.isDirectory (Path.ofText a.input) = true ∧
      tree.filesBelow (Path.ofText a.input) = [["a.json"], ["sub", "a.json"]] := by
    simp only [FileTree.isDirectory, FileTree.filesBelow, FileTree.locate, FileTree.origin,
      String.contains_char_eq]
    decide +kernel
  obtain ⟨-, -, hlist, hagain⟩ := repeated_run hread rfl rfl rfl rfl hdirectory
  refine ⟨hread, hdirectory, ?_, hexit, (hagain hexit).1⟩
  rw [hlist, hbelow, stylesheetsAmong_eq_insertionSort]
  decide +kernel

end CustomProps.Command
