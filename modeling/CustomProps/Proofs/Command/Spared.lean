import CustomProps.Proofs.Command.Course
/-!
# Files that a failure spares

The options are built before any stylesheet is read, and what could be built then is built again for
every file, when others have been written. A stylesheet is read before anything of it is written. So
a program that ends with the exit code for misuse has touched no file, nor has one that was given a
single file it cannot read; and a renaming of a directory that stops at a file has written what
belongs to the files before it and nothing else.
-/
namespace CustomProps.Command

/-! ### Failures -/

/-- What fails is reading a stylesheet. -/
def Failure.isOfStylesheet : Failure → Bool
  | unreadable .. | notStylesheet => true
  | _ => false

/-- What fails is settling what is to be done: loading a configuration or building options. -/
def Failure.isOfSettling : Failure → Bool
  | options _ | configUnreadable .. | configNotJson | configNotToml | configKind => true
  | _ => false

theorem Failure.isOfStylesheet_eq_false {f : Failure} (h : f.isOfSettling = true) :
    f.isOfStylesheet = false := by
  cases f with
  | unreadable path e => cases h
  | notStylesheet => cases h
  | _ => rfl

theorem isOfStylesheet_of_stylesheetAt {t : FileTree} {p : Path} {f : Failure}
    (h : stylesheetAt t p = .error f) : f.isOfStylesheet = true := by
  unfold stylesheetAt at h
  split at h
  · cases h
    rfl
  · split at h
    · cases h
      rfl
    · cases h

theorem isOfSettling_of_configAt {t : FileTree} {path : Option String} {f : Failure}
    (h : configAt t path = .error f) : f.isOfSettling = true := by
  unfold configAt at h
  split at h
  · cases h
  · rename_i path
    split at h
    · cases h
      rfl
    · rename_i source _
      split at h
      · cases hjson : ConfigFile.ofJsonText? source <;> rw [hjson] at h <;> cases h
        rfl
      · split at h
        · cases htoml : ConfigFile.ofTomlText? source <;> rw [htoml] at h <;> cases h
          rfl
        · cases h
          rfl

theorem isOfSettling_of_settle {i : Invocation} {a : RenameArguments} {t : FileTree} {f : Failure}
    (h : i.settle a t = .error f) : f.isOfSettling = true := by
  unfold Invocation.settle at h
  split at h
  · cases h
    exact isOfSettling_of_configAt ‹_›
  · unfold RenameArguments.task at h
    split at h
    · cases h
      rfl
    · cases h

/-! ### Renaming -/

namespace Task

variable {k : Task} {recursive : Bool} {t t' : FileTree} {f : Failure}

/-- Once the task is settled, neither the options fail nor the delivery of a map. -/
theorem Conclusion.failure_cases (h : k.Conclusion recursive t (.error f) t') :
    f.isOfStylesheet = true ∨ (∃ e, f = .refused e) ∨ ∃ path, f = .notRecursive path := by
  generalize hr : (Except.error f : Except Failure Unit) = r at h
  cases h with
  | alone hfile h =>
    cases h with
    | done hs hw => cases hr
    | unread hs =>
      cases hr
      exact Or.inl (isOfStylesheet_of_stylesheetAt hs)
    | refused hs hw hpart e =>
      cases hr
      exact Or.inr (Or.inl ⟨e, rfl⟩)
  | below hdirectory hrecursive h =>
    cases h with
    | done total h => cases hr
    | unread hfiles h hmade hs =>
      cases hr
      exact Or.inl (isOfStylesheet_of_stylesheetAt hs)
    | refused e t' =>
      cases hr
      exact Or.inr (Or.inl ⟨e, rfl⟩)
  | notRecursive hdirectory hrecursive path =>
    cases hr
    exact Or.inr (Or.inr ⟨path, rfl⟩)

theorem Conclusion.exitCode_eq_one (h : k.Conclusion recursive t (.error f) t') :
    f.exitCode = 1 := by
  rcases h.failure_cases with hf | ⟨e, rfl⟩ | ⟨path, rfl⟩
  · cases f with
    | options e => cases hf
    | _ => rfl
  · rfl
  · rfl

end Task

/-! ### The program -/

section Run

variable {args : List String} {files : FileTree} {outcome : Outcome} {s : Session}

theorem files_of_exitCode_eq_two (h : Session.run args files = (outcome, s))
    (hcode : outcome.exitCode = 2) : s.files = files := by
  cases hread : Invocation.read args with
  | error stop =>
    rw [Session.run_of_misread hread] at h
    cases h
    rfl
  | ok i =>
    obtain ⟨r, s', hrun, hends⟩ := Session.exists_run_of_read files hread
    rw [h] at hrun
    cases hrun
    rcases Ends.of_perform hends with ⟨hfiles, -⟩ | ⟨a, k, -, -, hk⟩
    · exact hfiles
    -- Whatever fails once the task is settled has the other exit code.
    · cases r with
      | ok _ => cases hcode
      | error f =>
        have hone : f.exitCode = 1 := hk.exitCode_eq_one
        have htwo : f.exitCode = 2 := hcode
        omega

variable {i : Invocation} {a : RenameArguments} {f : Failure}

theorem spared_of_unread (h : Session.run args files = (outcome, s))
    (hread : Invocation.read args = .ok i) (ha : i.request = some (.rename a))
    (halone : ¬(files.isDirectory (Path.ofText a.input) ∧ a.recursive))
    (hf : stylesheetAt files (Path.ofText a.input) = .error f) :
    outcome.exitCode ≠ 0 ∧ s.files = files := by
  have hrun := Session.run_rename files hread ha
  rw [h] at hrun
  rcases hrun with ⟨f', -, houtcome, hfiles⟩ | ⟨k, r, hsettle, houtcome, hk⟩
  · cases houtcome
    exact ⟨f'.exitCode_ne_zero, hfiles⟩
  · rw [← Invocation.input_settle hsettle] at halone hf
    cases houtcome
    dsimp only at hk
    generalize s.files = t' at hk
    cases hk with
    | alone hfile h =>
      cases h with
      | done hs hw => cases hf.symm.trans hs
      | unread hs => exact ⟨Failure.exitCode_ne_zero _, rfl⟩
      | refused hs hw hpart e => cases hf.symm.trans hs
    | below hdirectory hrecursive h => exact absurd ⟨hdirectory, hrecursive⟩ halone
    | notRecursive hdirectory hrecursive path =>
      exact ⟨(Failure.notRecursive path).exitCode_ne_zero, rfl⟩

theorem spared_of_stopped (h : Session.run args files = (.failed f, s))
    (hread : Invocation.read args = .ok i) (ha : i.request = some (.rename a))
    (hdirectory : files.isDirectory (Path.ofText a.input))
    (hf : f.isOfStylesheet) :
    ∃ k before names after, i.settle a files = .ok k ∧
      stylesheetsAmong (files.filesBelow (Path.ofText a.input)) = before ++ names :: after ∧
      k.stylesheetBelow s.files names = .error f ∧
      (∃ t, k.Renamed files before t ∧ t.Written [] s.files) ∧
      (∀ p ∈ before.flatMap k.pathsBelow, ∃ content, s.files.read p = .ok content) ∧
      files.SparedIn s.files (before.flatMap k.pathsBelow) := by
  have hrun := Session.run_rename files hread ha
  rw [h] at hrun
  rcases hrun with ⟨f', hsettle, houtcome, hfiles⟩ | ⟨k, r, hsettle, houtcome, hk⟩
  · cases houtcome
    rw [Failure.isOfStylesheet_eq_false (isOfSettling_of_settle hsettle)] at hf
    cases hf
  · rw [← Invocation.input_settle hsettle] at hdirectory ⊢
    dsimp only at houtcome hk
    generalize s.files = t' at hk ⊢
    cases hk with
    | alone hfile h =>
      rw [hdirectory] at hfile
      cases hfile
    | @below r t' _ _ h =>
      cases h with
      | done total h => cases houtcome
      | unread hfiles h hmade hs =>
        cases houtcome
        obtain ⟨ws, hbefore, hpaths⟩ := h.exists_written
        have hw := hbefore.append hmade
        rw [List.append_nil] at hw
        refine ⟨k, _, _, _, hsettle, hfiles, hs, ⟨_, h, hmade⟩, ?_, ?_⟩
        · rw [← hpaths]
          intro p hp
          obtain ⟨w, hmem, rfl⟩ := List.mem_map.mp hp
          exact hw.exists_read w hmem
        · rw [← hpaths]
          exact hw.spared
      | refused e t' =>
        cases houtcome
        cases hf
    | notRecursive _ hnot path =>
      cases houtcome
      cases hf

/-- Every run has delivered its map when the map is to be taken. -/
theorem ne_mapUndelivered (h : Session.run args files = (outcome, s))
    (hread : Invocation.read args = .ok i) (ha : i.request = some (.rename a)) :
    outcome ≠ .failed .mapUndelivered := by
  rintro rfl
  have hrun := Session.run_rename files hread ha
  rw [h] at hrun
  rcases hrun with ⟨f, hsettle, houtcome, -⟩ | ⟨k, r, -, houtcome, hk⟩
  · cases houtcome
    cases isOfSettling_of_settle hsettle
  · cases r with
    | ok _ => cases houtcome
    | error f =>
      cases houtcome
      rcases hk.failure_cases with hf | ⟨e, he⟩ | ⟨path, hpath⟩
      · cases hf
      · cases he
      · cases hpath

end Run

/-- A failure spares the files. With the exit code for misuse the program has changed none, and none
if a single stylesheet file cannot be read. If renaming a directory stops at a file that cannot be
read, the files before it have been renamed: what belongs to them is there, and no other file has
been created or changed. And no renaming stops between a stylesheet and its map because the map has
not been delivered. -/
theorem files_spared {args : List String} {files : FileTree} {outcome : Outcome} {s : Session}
    (h : Session.run args files = (outcome, s)) :
    (outcome.exitCode = 2 → s.files = files) ∧
      ∀ i a, Invocation.read args = .ok i → i.request = some (.rename a) →
        outcome ≠ .failed .mapUndelivered ∧ ∀ f,
          (¬(files.isDirectory (Path.ofText a.input) ∧ a.recursive) →
            stylesheetAt files (Path.ofText a.input) = .error f →
              outcome.exitCode ≠ 0 ∧ s.files = files) ∧
          (files.isDirectory (Path.ofText a.input) → outcome = .failed f → f.isOfStylesheet →
              ∃ k before names after, i.settle a files = .ok k ∧
                stylesheetsAmong (files.filesBelow (Path.ofText a.input)) =
                  before ++ names :: after ∧
                k.stylesheetBelow s.files names = .error f ∧
                (∃ t, k.Renamed files before t ∧ t.Written [] s.files) ∧
                (∀ p ∈ before.flatMap k.pathsBelow, ∃ content, s.files.read p = .ok content) ∧
                files.SparedIn s.files (before.flatMap k.pathsBelow)) := by
  refine ⟨files_of_exitCode_eq_two h,
    fun i a hread ha => ⟨ne_mapUndelivered h hread ha, fun f => ⟨?_, ?_⟩⟩⟩
  · exact fun halone hf => spared_of_unread h hread ha halone hf
  · rintro hdirectory rfl hf
    exact spared_of_stopped h hread ha hdirectory hf

/-- Options that make no sense, a single file that is no stylesheet, and a directory where the second
file is none. -/
theorem files_spared_of_broken :
    let tree : FileTree :=
      ⟨[(["in"], .directory), (["in", "a.json"], .file "{}".toUTF8),
        (["in", "b.json"], .file "[".toUTF8)], []⟩
    let a : RenameArguments := ⟨"in", none, none, none, none, [], [], true, false, .text⟩
    let i : Invocation := ⟨none, 0, some (.rename a)⟩
    ((Session.run ["rename", "in", "--except-pattern", "("] tree).1.exitCode = 2 ∧
        (Session.run ["rename", "in", "--except-pattern", "("] tree).2.files = tree) ∧
      ((Session.run ["rename", "in/b.json"] tree).1.exitCode ≠ 0 ∧
        (Session.run ["rename", "in/b.json"] tree).2.files = tree) ∧
      ∃ k before names after, i.settle a tree = .ok k ∧
        stylesheetsAmong (tree.filesBelow (Path.ofText "in")) = before ++ names :: after ∧
        k.stylesheetBelow (Session.run ["rename", "in", "-r"] tree).2.files names =
          .error .notStylesheet ∧
        tree.SparedIn (Session.run ["rename", "in", "-r"] tree).2.files
          (before.flatMap k.pathsBelow) := by
  intro tree a i
  have hcode : (Session.run ["rename", "in", "--except-pattern", "("] tree).1.exitCode = 2 := by
    decide +kernel
  obtain ⟨hdirectory, hbroken⟩ : tree.isDirectory (Path.ofText "in") = true ∧
      stylesheetAt tree (Path.ofText "in/b.json") = .error .notStylesheet := by
    simp only [stylesheetAt, FileTree.isDirectory, FileTree.read, FileTree.locate, FileTree.origin,
      String.contains_char_eq]
    decide +kernel
  have hread : Invocation.read ["rename", "in", "-r"] = .ok i := by decide +kernel
  have hstop : (Session.run ["rename", "in", "-r"] tree).1 = .failed .notStylesheet := by
    rw [Session.run, Command.run, hread]
    unfold perform rename renameDirectory renameBelow
    simp only [stylesheetsAmong_eq_insertionSort, renameFile, renameStylesheet, readText, attempt,
      write, Host.read, Host.write, Host.isDirectory, Host.filesBelow, FileTree.isDirectory,
      FileTree.filesBelow, FileTree.read, FileTree.write, FileTree.target, FileTree.locate,
      FileTree.origin, String.contains_char_eq]
    decide +kernel
  refine ⟨⟨hcode, (@files_spared _ tree _ _ Prod.mk.eta.symm).1 hcode⟩, ?_, ?_⟩
  · let alone : RenameArguments :=
      ⟨"in/b.json", none, none, none, none, [], [], false, false, .text⟩
    have hread : Invocation.read ["rename", "in/b.json"] =
        .ok ⟨none, 0, some (.rename alone)⟩ := by decide +kernel
    obtain ⟨-, hspared⟩ := (@files_spared _ tree _ _ Prod.mk.eta.symm).2 _ alone hread rfl
    exact (hspared .notStylesheet).1 (fun h => absurd h.2 (by decide)) hbroken
  · obtain ⟨-, hstopped⟩ := (@files_spared _ tree _ _ Prod.mk.eta.symm).2 i a hread rfl
    obtain ⟨k, before, names, after, hk, hfiles, hs, -, -, hspared⟩ :=
      (hstopped .notStylesheet).2 hdirectory hstop rfl
    exact ⟨k, before, names, after, hk, hfiles, hs, hspared⟩

end CustomProps.Command
