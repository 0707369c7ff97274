import CustomProps.Proofs.Command.Renamed
/-!
# The course of the program

Before any stylesheet is read, the arguments and the configuration file settle what is to be done.
What then becomes of the tree is up to the renaming of one file or of the files below a directory;
nothing else that the program does changes a file.
-/
namespace CustomProps.Command

/-! ### What is settled first -/

/-- The configuration file in force, or why there is none. -/
def configAt (t : FileTree) : Option String → Except Failure ConfigFile
  | none => .ok ConfigFile.empty
  | some path =>
    match ReadError.textOf (t.read (Path.ofText path)) with
    | .error e => .error (.configUnreadable path e)
    | .ok source =>
      if path.endsWith ".json" then
        (ConfigFile.ofJsonText? source).elim (.error .configNotJson) .ok
      else if path.endsWith ".toml" then
        (ConfigFile.ofTomlText? source).elim (.error .configNotToml) .ok
      else .error .configKind

/-- What the arguments ask for under a configuration file. -/
def RenameArguments.task (a : RenameArguments) (file : ConfigFile) : Except Failure Task :=
  match (a.config file.config).options with
  | .error e => .error (.options e)
  | .ok o =>
    .ok ⟨o, Path.ofText a.input, (a.output.or file.outputDirectory).map Path.ofText,
      (a.map.or file.mapFile).map Path.ofText⟩

/-- What a renaming settles on a tree, or why it fails before any stylesheet is read. -/
def Invocation.settle (i : Invocation) (a : RenameArguments) (t : FileTree) : Except Failure Task :=
  match configAt t i.config with
  | .error f => .error f
  | .ok file => a.task file

/-- Where the result goes if a single file is renamed. -/
def Task.outputAlone (k : Task) : Path := k.output.getD (k.input.sibling renamedEnding)

theorem RenameArguments.input_task {a : RenameArguments} {file : ConfigFile} {k : Task}
    (h : a.task file = .ok k) : k.input = Path.ofText a.input := by
  unfold task at h
  split at h
  · cases h
  · cases h
    rfl

theorem RenameArguments.options_task {a : RenameArguments} {file : ConfigFile} {k : Task}
    (h : a.task file = .ok k) : (a.config file.config).options = .ok k.options := by
  unfold task at h
  split at h
  · cases h
  · rename_i o ho
    cases h
    exact ho

theorem Invocation.input_settle {i : Invocation} {a : RenameArguments} {t : FileTree} {k : Task}
    (h : i.settle a t = .ok k) : k.input = Path.ofText a.input := by
  unfold settle at h
  split at h
  · cases h
  · exact RenameArguments.input_task h

/-- How the renaming that was settled can end. -/
inductive Task.Conclusion (k : Task) (recursive : Bool) (t : FileTree) :
    Except Failure Unit → FileTree → Prop where
  | alone {r : Except Failure Stats} {t' : FileTree} (hfile : t.isDirectory k.input = false)
      (h : Renames k.options k.input k.outputAlone k.map t r t') :
      k.Conclusion recursive t (r.map fun _ => ()) t'
  | below {r : Except Failure Stats} {t' : FileTree} (hdirectory : t.isDirectory k.input = true)
      (hrecursive : recursive = true)
      (h : k.Ending t (stylesheetsAmong (t.filesBelow k.input)) r t') :
      k.Conclusion recursive t (r.map fun _ => ()) t'
  | notRecursive (hdirectory : t.isDirectory k.input = true) (hrecursive : recursive = false)
      (path : String) : k.Conclusion recursive t (.error (.notRecursive path)) t

theorem isDirectory_of_stylesheetAt {t : FileTree} {p : Path} {sheet : Stylesheet}
    (h : stylesheetAt t p = .ok sheet) : t.isDirectory p = false := by
  obtain ⟨content, hread, -⟩ := exists_of_stylesheetAt h
  obtain ⟨place, hlocate, hentry⟩ := FileTree.read_eq_ok_iff.mp hread
  rw [FileTree.isDirectory, hlocate]
  dsimp only
  rw [hentry]
  rfl

section Alone

variable {k : Task} {recursive : Bool} {t t' : FileTree} {sheet : Stylesheet}

/-- Where the input holds a stylesheet, what is renamed is this one file. -/
theorem Task.Conclusion.exists_renames {r : Except Failure Unit} (h : k.Conclusion recursive t r t')
    (hsheet : stylesheetAt t k.input = .ok sheet) :
    ∃ r₁, r = r₁.map (fun _ => ()) ∧
      Renames k.options k.input k.outputAlone k.map t r₁ t' := by
  have hfile := isDirectory_of_stylesheetAt hsheet
  cases h with
  | alone _ h => exact ⟨_, rfl, h⟩
  | below hdirectory _ _ => cases hfile.symm.trans hdirectory
  | notRecursive hdirectory _ _ => cases hfile.symm.trans hdirectory

/-- A renaming of a single file that ends well has written the results of the file. -/
theorem Task.Conclusion.written (h : k.Conclusion recursive t (.ok ()) t')
    (hsheet : stylesheetAt t k.input = .ok sheet) :
    t.Written (results k.options sheet k.outputAlone k.map) t' := by
  obtain ⟨r, hr, hrenames⟩ := h.exists_renames hsheet
  cases hrenames with
  | done hs hw =>
    cases hsheet.symm.trans hs
    exact hw
  | unread => cases hr
  | refused => cases hr

/-- A single file without a map is renamed if it can be read and its result can be written. -/
theorem Task.Conclusion.eq_ok {r : Except Failure Unit} {t₁ : FileTree}
    (h : k.Conclusion recursive t r t') (hsheet : stylesheetAt t k.input = .ok sheet)
    (hmap : k.map = none)
    (hwrite : t.write k.outputAlone
      (Stylesheet.print ⟨(k.options.run sheet.rules).rules⟩).toUTF8 = .ok t₁) :
    r = .ok () := by
  obtain ⟨r₁, rfl, hrenames⟩ := h.exists_renames hsheet
  cases hrenames with
  | done => rfl
  | unread hs => cases hsheet.symm.trans hs
  | refused hs hw hpart e hrest hfirst =>
    cases hsheet.symm.trans hs
    rw [hmap] at hpart hrest
    -- There is one file to write, so what has been written before is nothing.
    rcases List.prefix_cons_iff.mp hpart with rfl | ⟨ws, rfl, hnil⟩
    · cases hwrite.symm.trans (hfirst rfl)
    · rw [List.prefix_nil.mp hnil] at hrest
      exact absurd rfl hrest

end Alone

namespace Ends

variable {s s' : Session} {r : Except Failure Unit}

theorem of_found {level : Log.Level} {path : String} {found : Option ConfigFile}
    {failure : Failure} {r : Except Failure ConfigFile}
    (h : Ends (match found with
      | none => throw failure
      | some file => do
        log level [.configurationLoaded path]
        return file) s r s') :
    r = found.elim (.error failure) .ok ∧ s'.files = s.files := by
  cases found with
  | none =>
    obtain ⟨rfl, rfl⟩ := of_throw h
    exact ⟨rfl, rfl⟩
  | some file =>
    obtain ⟨s₁, hs₁, hend⟩ := of_report (fun _ _ => of_log) h
    obtain ⟨rfl, rfl⟩ := of_pure hend
    exact ⟨rfl, hs₁⟩

theorem of_loadConfig {level : Log.Level} {path : String} {r : Except Failure ConfigFile}
    (h : Ends (loadConfig level path) s r s') :
    r = configAt s.files (some path) ∧ s'.files = s.files := by
  unfold loadConfig at h
  rw [configAt]
  rcases of_readText h with ⟨source, hsource, hkind⟩ | ⟨e, he, rfl, rfl⟩
  · rw [hsource]
    dsimp only
    -- The end of the name says how the text is read, and what it means that it cannot be.
    split at hkind
    · rename_i hjson
      rw [if_pos hjson]
      exact of_found hkind
    · rename_i hjson
      rw [if_neg hjson]
      split at hkind
      · rename_i htoml
        rw [if_pos htoml]
        exact of_found hkind
      · rename_i htoml
        rw [if_neg htoml]
        cases hkind
        exact ⟨rfl, rfl⟩
  · rw [he]
    exact ⟨rfl, rfl⟩

theorem of_scan {level : Log.Level} {a : ScanArguments} (h : Ends (scan level a) s r s') :
    s'.files = s.files := by
  unfold scan at h
  rcases of_readText h with ⟨source, -, hrest⟩ | ⟨e, -, -, rfl⟩
  · split at hrest
    · rw [(of_throw hrest).2]
    · obtain ⟨s₁, hs₁, hshown⟩ := of_report (fun _ _ => of_log) hrest
      rw [← hs₁]
      split at hshown
      · exact (of_print hshown).2
      · obtain ⟨s₂, hs₂, hlast⟩ := of_report (fun _ _ => of_print) hshown
        rw [← hs₂]
        exact (of_printAll hlast).2
  · rfl

/-- What follows a renaming only reports. -/
theorem of_closing {level : Log.Level} {a : RenameArguments} {stats : Stats}
    (h : Ends (do
      print (.text "✅ Rename successful!")
      print .elapsed
      if a.showsStats then
        match a.format with
        | .json => print (.text stats.toJson.pretty)
        | .text => printAll stats.summary
      log level [.commandEnded]) s r s') :
    r = .ok () ∧ s'.files = s.files := by
  obtain ⟨s₁, hs₁, h₁⟩ := of_report (fun _ _ => of_print) h
  obtain ⟨s₂, hs₂, h₂⟩ := of_report (fun _ _ => of_print) h₁
  rw [← hs₁, ← hs₂]
  clear h h₁ hs₁ hs₂
  split at h₂
  · split at h₂
    · obtain ⟨s₃, hs₃, h₃⟩ := of_report (fun _ _ => of_print) h₂
      rw [← hs₃]
      exact of_log h₃
    · obtain ⟨s₃, hs₃, h₃⟩ := of_report (fun _ _ => of_printAll) h₂
      rw [← hs₃]
      exact of_log h₃
  · exact of_log h₂

theorem of_reported {x : Action (StateM Session) Stats}
    {close : Stats → Action (StateM Session) Unit}
    (hclose : ∀ stats s r s', Ends (close stats) s r s' → r = .ok () ∧ s'.files = s.files)
    (h : Ends (x >>= close) s r s') :
    ∃ r₁ s₁, Ends x s r₁ s₁ ∧ r = r₁.map (fun _ => ()) ∧ s'.files = s₁.files := by
  rcases of_bind h with ⟨stats, s₁, hx, hrest⟩ | ⟨f, hx, rfl⟩
  · obtain ⟨rfl, hfiles⟩ := hclose _ _ _ _ hrest
    exact ⟨_, s₁, hx, rfl, hfiles⟩
  · exact ⟨_, s', hx, rfl, rfl⟩

theorem of_settled {level : Log.Level} {file : Config} {k : Task} {a : RenameArguments}
    (ho : (a.config file).options = .ok k.options) (h : Ends (do
      let stats ←
        if ← ExceptT.lift (Host.isDirectory k.input) then
          if a.recursive then renameDirectory level file a k.input k.output k.map
          else throw (.notRecursive a.input)
        else renameFile level file a k.input (k.output.getD (k.input.sibling renamedEnding)) k.map
      print (.text "✅ Rename successful!")
      print .elapsed
      if a.showsStats then
        match a.format with
        | .json => print (.text stats.toJson.pretty)
        | .text => printAll stats.summary
      log level [.commandEnded]) s r s') :
    k.Conclusion a.recursive s.files r s'.files := by
  have hrest := of_isDirectory h
  dsimp only at hrest
  split at hrest
  · rename_i hdirectory
    cases hrecursive : a.recursive with
    | true =>
      rw [hrecursive] at hrest
      obtain ⟨r₁, s₁, hrenamed, rfl, hfiles⟩ := of_reported (fun _ _ _ _ => of_closing) hrest
      rw [hfiles]
      exact .below hdirectory rfl (of_renameDirectory ho hrenamed)
    | false =>
      rw [hrecursive] at hrest
      obtain ⟨r₁, s₁, hthrown, rfl, hfiles⟩ := of_reported (fun _ _ _ _ => of_closing) hrest
      obtain ⟨rfl, rfl⟩ := of_throw hthrown
      rw [hfiles]
      exact .notRecursive hdirectory rfl a.input
  · rename_i hfile
    obtain ⟨r₁, s₁, hrenamed, rfl, hfiles⟩ := of_reported (fun _ _ _ _ => of_closing) hrest
    rw [hfiles]
    exact .alone (Bool.eq_false_iff.mpr hfile) (renames_of_renameFile ho hrenamed)

theorem of_rename {level : Log.Level} {file : ConfigFile} {a : RenameArguments}
    (h : Ends (rename level file a) s r s') :
    (∃ f, a.task file = .error f ∧ r = .error f ∧ s'.files = s.files) ∨
      ∃ k, a.task file = .ok k ∧ k.Conclusion a.recursive s.files r s'.files := by
  unfold rename at h
  rw [RenameArguments.task]
  rcases of_buildOptions h with ⟨o, ho, hrest⟩ | ⟨e, he, rfl, rfl⟩
  · rw [ho]
    let k : Task := ⟨o, Path.ofText a.input, (a.output.or file.outputDirectory).map Path.ofText,
      (a.map.or file.mapFile).map Path.ofText⟩
    exact Or.inr ⟨k, rfl, of_settled (k := k) ho hrest⟩
  · rw [he]
    exact Or.inl ⟨_, rfl, rfl, rfl⟩

section Perform

variable {i : Invocation}

theorem of_request (level : Log.Level) {file : ConfigFile} {next : Action (StateM Session) Unit}
    (hfile : configAt s.files i.config = .ok file)
    (hrename : ∀ a, i.request = some (.rename a) → next = rename level file a)
    (hscan : ∀ a, i.request = some (.scan a) → next = scan level a)
    (hnone : i.request = none →
      next = print (.text "No subcommand specified. Use --help for usage information."))
    (h : Ends next s r s') :
    (s'.files = s.files ∧ ∀ a, i.request = some (.rename a) →
        ∃ f, i.settle a s.files = .error f ∧ r = .error f) ∨
      ∃ a k, i.request = some (.rename a) ∧ i.settle a s.files = .ok k ∧
        k.Conclusion a.recursive s.files r s'.files := by
  cases hrequest : i.request with
  | none =>
    rw [hnone hrequest] at h
    refine Or.inl ⟨(of_print h).2, fun a ha => ?_⟩
    cases ha
  | some request =>
    cases request with
    | scan a =>
      rw [hscan a hrequest] at h
      refine Or.inl ⟨of_scan h, fun a ha => ?_⟩
      cases ha
    | rename a =>
      rw [hrename a hrequest] at h
      have hsettle : i.settle a s.files = a.task file := by
        rw [Invocation.settle, hfile]
      rcases of_rename h with ⟨f, htask, rfl, hsame⟩ | ⟨k, htask, hk⟩
      · refine Or.inl ⟨hsame, fun a' ha' => ⟨f, ?_, rfl⟩⟩
        cases ha'
        rw [hsettle, htask]
      · exact Or.inr ⟨a, k, rfl, hsettle.trans htask, hk⟩

/-- Apart from a renaming that is settled, the program leaves all files as they are. -/
theorem of_perform (h : Ends (perform i) s r s') :
    (s'.files = s.files ∧ ∀ a, i.request = some (.rename a) →
        ∃ f, i.settle a s.files = .error f ∧ r = .error f) ∨
      ∃ a k, i.request = some (.rename a) ∧ i.settle a s.files = .ok k ∧
        k.Conclusion a.recursive s.files r s'.files := by
  unfold perform at h
  cases hpath : i.config with
  | none =>
    rw [hpath] at h
    have hfile : configAt s.files i.config = .ok ConfigFile.empty := by rw [hpath, configAt]
    refine of_request (Log.Level.ofVerbosity i.verbosity) hfile (fun a ha => ?_) (fun a ha => ?_)
      (fun ha => ?_) h
    · rw [ha]
      rfl
    · rw [ha]
      rfl
    · rw [ha]
      rfl
  | some path =>
    rw [hpath] at h
    rcases of_bind h with ⟨file, s₁, hload, hrest⟩ | ⟨f, hload, rfl⟩
    · obtain ⟨hfile, hfiles⟩ := of_loadConfig hload
      rw [← hpath, ← hfiles] at hfile
      rw [← hfiles]
      refine of_request (Log.Level.ofVerbosity i.verbosity) hfile.symm (fun a ha => ?_)
        (fun a ha => ?_) (fun ha => ?_) hrest
      · rw [ha]
      · rw [ha]
      · rw [ha]
    · obtain ⟨hfile, hfiles⟩ := of_loadConfig hload
      refine Or.inl ⟨hfiles, fun a _ => ⟨f, ?_, rfl⟩⟩
      rw [Invocation.settle, hpath, ← hfile]

end Perform

end Ends

theorem Failure.exitCode_ne_zero (f : Failure) : f.exitCode ≠ 0 := by
  cases f <;> simp [exitCode]

namespace Session

variable {args : List String} {files : FileTree}

theorem run_of_misread {stop : Stop} (h : Invocation.read args = .error stop) :
    run args files = (.ofStop stop, start files) := by
  rw [run, Command.run, h]
  rfl

theorem exists_run_of_read (files : FileTree) {i : Invocation} (h : Invocation.read args = .ok i) :
    ∃ r s', run args files = (.ofExcept r, s') ∧ Ends (perform i) (start files) r s' := by
  refine ⟨_, _, ?_, rfl⟩
  rw [run, Command.run, h]
  rfl

/-- A renaming fails before it is settled, with all files as they are, or comes to its conclusion. -/
theorem run_rename (files : FileTree) {i : Invocation} {a : RenameArguments}
    (h : Invocation.read args = .ok i) (ha : i.request = some (.rename a)) :
    (∃ f, i.settle a files = .error f ∧ (run args files).1 = .failed f ∧
        (run args files).2.files = files) ∨
      ∃ k r, i.settle a files = .ok k ∧ (run args files).1 = .ofExcept r ∧
        k.Conclusion a.recursive files r (run args files).2.files := by
  obtain ⟨r, s', hrun, hends⟩ := exists_run_of_read files h
  rw [hrun]
  rcases Ends.of_perform hends with ⟨hfiles, hfails⟩ | ⟨a', k, ha', hsettle, hk⟩
  · obtain ⟨f, hsettle, rfl⟩ := hfails a ha
    exact Or.inl ⟨f, hsettle, rfl, hfiles⟩
  · rw [ha] at ha'
    cases ha'
    exact Or.inr ⟨k, r, hsettle, rfl, hk⟩

end Session

end CustomProps.Command
