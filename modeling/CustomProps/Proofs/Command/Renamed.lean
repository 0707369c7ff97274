import CustomProps.Proofs.Command.Ending
import Mathlib.Data.List.Sort
/-!
# What renaming files does to a tree

A file is read before anything of it is written. What a renaming reads, what it writes and how it
can end is said here for one file, for the files of a directory one after the other, and for the
whole command.
-/
namespace CustomProps.Command

/-! ### What is read and what is written -/

/-- The stylesheet that a file holds, or why renaming it fails. -/
def stylesheetAt (t : FileTree) (p : Path) : Except Failure Stylesheet :=
  match ReadError.textOf (t.read p) with
  | .error e => .error (.unreadable p.text e)
  | .ok source =>
    match Stylesheet.parse? source with
    | none => .error .notStylesheet
    | some sheet => .ok sheet

theorem exists_of_stylesheetAt {t : FileTree} {p : Path} {sheet : Stylesheet}
    (h : stylesheetAt t p = .ok sheet) : ∃ content, t.read p = .ok content ∧
      ∀ t' : FileTree, t'.read p = .ok content → stylesheetAt t' p = .ok sheet := by
  cases hread : t.read p with
  | error e =>
    rw [stylesheetAt, hread] at h
    cases h
  | ok content =>
    refine ⟨content, rfl, fun t' ht' => ?_⟩
    rwa [stylesheetAt, ht', ← hread]

/-- The files that renaming a stylesheet writes: the stylesheet after a run, and the map of the run if
it is asked for. -/
def results (o : Options) (sheet : Stylesheet) (output : Path) (map : Option Path) :
    List (Path × String) :=
  (output, Stylesheet.print ⟨(o.run sheet.rules).rules⟩) ::
    (map.map fun p => (p, (o.run sheet.rules).map.print)).toList

/-! ### One file -/

/-- How renaming a file can end, and the tree it leaves. If it is refused to write anything, what was
to be written before is there; if there was nothing before, it is the stylesheet that cannot be
written. -/
inductive Renames (o : Options) (input output : Path) (map : Option Path) (t : FileTree) :
    Except Failure Stats → FileTree → Prop where
  | done {sheet : Stylesheet} {t' : FileTree} (hs : stylesheetAt t input = .ok sheet)
      (hw : t.Written (results o sheet output map) t') :
      Renames o input output map t (.ok (o.run sheet.rules).stats) t'
  | unread {f : Failure} (hs : stylesheetAt t input = .error f) :
      Renames o input output map t (.error f) t
  | refused {sheet : Stylesheet} {t' : FileTree} {ws : List (Path × String)}
      (hs : stylesheetAt t input = .ok sheet) (hw : t.Written ws t')
      (hpart : ws <+: results o sheet output map) (e : OsError)
      (hrest : ws ≠ results o sheet output map)
      (hfirst : ws = [] →
        t.write output (Stylesheet.print ⟨(o.run sheet.rules).rules⟩).toUTF8 = .error e) :
      Renames o input output map t (.error (.refused e)) t'

theorem Ends.of_buildOptions {β : Type} {file : Config} {a : RenameArguments}
    {k : Options → Action (StateM Session) β} {s s' : Session} {r : Except Failure β}
    (h : Ends (buildOptions file a >>= k) s r s') :
    (∃ o, (a.config file).options = .ok o ∧ Ends (k o) s r s') ∨
      ∃ e, (a.config file).options = .error e ∧ r = .error (.options e) ∧ s' = s := by
  unfold buildOptions at h
  cases hoptions : (a.config file).options with
  | ok o =>
    rw [hoptions] at h
    exact Or.inl ⟨o, rfl, h⟩
  | error e =>
    rw [hoptions] at h
    obtain ⟨rfl, rfl⟩ := of_throw h
    exact Or.inr ⟨e, rfl, rfl, rfl⟩

/-- A stylesheet that is read is written under its new names, and the map of the run is in the inbox
then. -/
theorem Ends.of_renameStylesheet {level : Log.Level} {o : Options} {inbox : Inbox}
    {input output : Path} {s s' : Session} {r : Except Failure (Stats × Inbox)}
    (h : Ends (renameStylesheet level o inbox input output) s r s') :
    (∃ f, stylesheetAt s.files input = .error f ∧ r = .error f ∧ s'.files = s.files) ∨
      ∃ sheet, stylesheetAt s.files input = .ok sheet ∧
        ((s.files.write output (Stylesheet.print ⟨(o.run sheet.rules).rules⟩).toUTF8 = .ok s'.files ∧
            r = .ok ((o.run sheet.rules).stats, inbox.deliver (o.run sheet.rules).map)) ∨
          ∃ e, s.files.write output (Stylesheet.print ⟨(o.run sheet.rules).rules⟩).toUTF8 = .error e ∧
            r = .error (.refused e) ∧ s'.files = s.files) := by
  unfold renameStylesheet at h
  obtain ⟨s₁, hs₁, hread⟩ := of_report (fun _ _ => of_log) h
  rw [← hs₁]
  rcases of_readText hread with ⟨source, hsource, hrun⟩ | ⟨e, he, rfl, rfl⟩
  · cases hparse : Stylesheet.parse? source with
    | none =>
      rw [hparse] at hrun
      obtain ⟨rfl, rfl⟩ := of_throw hrun
      exact Or.inl ⟨_, by simp only [stylesheetAt, hsource, hparse], rfl, rfl⟩
    | some sheet =>
      rw [hparse] at hrun
      have hsheet : stylesheetAt s₁.files input = .ok sheet := by
        simp only [stylesheetAt, hsource, hparse]
      obtain ⟨s₂, hs₂, hwrite⟩ := of_report (fun _ _ => of_log) hrun
      refine Or.inr ⟨sheet, hsheet, ?_⟩
      rw [← hs₂]
      rcases of_write hwrite with ⟨s₃, hw, hend⟩ | ⟨e, hw, rfl, hsame⟩
      · obtain ⟨rfl, rfl⟩ := of_pure hend
        exact Or.inl ⟨hw, rfl⟩
      · exact Or.inr ⟨e, hw, rfl, hsame⟩
  · exact Or.inl ⟨_, by simp only [stylesheetAt, he], rfl, rfl⟩

/-- What remains to be done for a file whose stylesheet has been written. -/
theorem Ends.of_mapWritten {o : Options} {input output : Path} {map : Option Path}
    {sheet : Stylesheet} {t : FileTree} {s s' : Session} {r : Except Failure Stats}
    (hsheet : stylesheetAt t input = .ok sheet)
    (hfirst : t.Written [(output, Stylesheet.print ⟨(o.run sheet.rules).rules⟩)] s.files)
    (h : Ends (do
      match map with
      | none => pure ()
      | some map =>
        makeParent map
        write map (o.run sheet.rules).map.print
        print (.text s!"   Map: {map.text}")
      return (o.run sheet.rules).stats) s r s') :
    Renames o input output map t r s'.files := by
  cases map with
  | none =>
    obtain ⟨rfl, rfl⟩ := of_pure h
    exact .done hsheet hfirst
  | some map =>
    obtain ⟨s₁, hparent, hend⟩ := of_makeParent h
    have hmade := hfirst.append hparent
    rcases hend with hwrite | ⟨⟨e, rfl⟩, rfl⟩
    · rcases of_write hwrite with ⟨s₂, hw, hprint⟩ | ⟨e, -, rfl, hsame⟩
      · obtain ⟨s₃, hs₃, hend⟩ := of_report (fun _ _ => of_print) hprint
        obtain ⟨rfl, rfl⟩ := of_pure hend
        rw [← hs₃] at hw
        exact .done hsheet (hmade.append (.file hw (.nothing _)))
      · rw [hsame]
        exact .refused hsheet hmade (by simp [results]) e (by simp [results]) (by simp)
    · exact .refused hsheet hmade (by simp [results]) e (by simp [results]) (by simp)

/-- Renaming a file fails with its files as they are if its options make no sense. It does not fail
for want of a map: the run before has delivered one. -/
theorem Ends.of_renameFile {level : Log.Level} {file : Config} {a : RenameArguments}
    {input output : Path} {map : Option Path} {s s' : Session} {r : Except Failure Stats}
    (h : Ends (renameFile level file a input output map) s r s') :
    (∃ e, (a.config file).options = .error e ∧ r = .error (.options e) ∧ s'.files = s.files) ∨
      ∃ o, (a.config file).options = .ok o ∧ Renames o input output map s.files r s'.files := by
  unfold renameFile at h
  obtain ⟨s₁, hs₁, hbuild⟩ := of_report (fun _ _ => of_print) h
  rw [← hs₁]
  rcases of_buildOptions hbuild with ⟨o, ho, hrenamed⟩ | ⟨e, he, rfl, rfl⟩
  · refine Or.inr ⟨o, ho, ?_⟩
    rcases of_bind hrenamed with ⟨⟨stats, inbox⟩, s₂, hstylesheet, hrest⟩ | ⟨f, hstylesheet, rfl⟩
    · rcases of_renameStylesheet hstylesheet with
        ⟨f, -, hf, -⟩ | ⟨sheet, hs, ⟨hw, hr⟩ | ⟨e, -, he, -⟩⟩
      · cases hf
      · cases hr
        -- The run was given an empty inbox, so the map that is taken is its own.
        dsimp only at hrest
        rw [Inbox.next?_deliver_empty] at hrest
        obtain ⟨s₃, hs₃, hmap⟩ := of_report (fun _ _ => of_print) hrest
        rw [← hs₃] at hw
        exact of_mapWritten hs (.file hw (.nothing _)) hmap
      · cases he
    · rcases of_renameStylesheet hstylesheet with
        ⟨f, hs, hf, hsame⟩ | ⟨sheet, hs, ⟨-, hr⟩ | ⟨e, hw, he, hsame⟩⟩
      · cases hf
        rw [hsame]
        exact .unread hs
      · cases hr
      · cases he
        rw [hsame]
        exact .refused hs (.nothing _) List.nil_prefix e (by simp [results]) fun _ => hw
  · exact Or.inl ⟨e, he, rfl, rfl⟩

/-- Options that could be built once can be built again. -/
theorem Ends.renames_of_renameFile {level : Log.Level} {file : Config} {a : RenameArguments}
    {o : Options} {input output : Path} {map : Option Path} {s s' : Session}
    {r : Except Failure Stats} (ho : (a.config file).options = .ok o)
    (h : Ends (renameFile level file a input output map) s r s') :
    Renames o input output map s.files r s'.files := by
  rcases of_renameFile h with ⟨e, he, -⟩ | ⟨o', ho', hrenames⟩
  · cases ho.symm.trans he
  · cases ho.symm.trans ho'
    exact hrenames

/-! ### The files below a directory -/

theorem namesLE_iff (a b : List String) : namesLE a b = true ↔ ¬b < a := by
  rw [namesLE, Bool.not_eq_true', decide_eq_false_iff_not]

/-- Any two paths can be compared, so it does not matter how they are sorted. -/
theorem stylesheetsAmong_eq_insertionSort (files : List (List String)) : stylesheetsAmong files =
    (files.filter fun names => names.getLast?.any isStylesheetName).insertionSort
      fun a b => namesLE a b = true := by
  have htotal : Std.Total fun a b => namesLE a b = true := by
    refine ⟨fun a b => ?_⟩
    rw [namesLE_iff, namesLE_iff]
    exact List.le_total a b
  have htrans : IsTrans (List String) fun a b => namesLE a b = true := by
    refine ⟨fun a b c => ?_⟩
    rw [namesLE_iff, namesLE_iff, namesLE_iff]
    exact List.le_trans
  have hantisymm : Std.Antisymm fun a b => namesLE a b = true := by
    refine ⟨fun a b => ?_⟩
    rw [namesLE_iff, namesLE_iff]
    exact List.le_antisymm
  rw [← List.mergeSort_eq_insertionSort, stylesheetsAmong]
  simp only [Bool.decide_eq_true]

/-- What is settled before any stylesheet is read: the options, and where to read and to write. -/
structure Task where
  options : Options
  input : Path
  output : Option Path
  map : Option Path

namespace Task

/-- Where the stylesheet of a file below the input directory goes. -/
def outputBelow (k : Task) (names : List String) : Path :=
  match k.output with
  | none => (k.input.join names).sibling renamedEnding
  | some directory => directory.join names

/-- Where the map of a file below the input directory goes, if maps are asked for. -/
def mapBelow (k : Task) (names : List String) : Option Path :=
  k.map.map fun directory => (directory.join names).sibling mapEnding

def pathsBelow (k : Task) (names : List String) : List Path :=
  k.outputBelow names :: (k.mapBelow names).toList

def stylesheetBelow (k : Task) (t : FileTree) (names : List String) : Except Failure Stylesheet :=
  stylesheetAt t (k.input.join names)

def resultsBelow (k : Task) (sheet : Stylesheet) (names : List String) : List (Path × String) :=
  results k.options sheet (k.outputBelow names) (k.mapBelow names)

theorem map_fst_resultsBelow (k : Task) (sheet : Stylesheet) (names : List String) :
    (k.resultsBelow sheet names).map Prod.fst = k.pathsBelow names := by
  rw [resultsBelow, results, pathsBelow]
  cases k.mapBelow names with
  | none => rfl
  | some p => rfl

/-- The tree `t'` is what becomes of `t` when the given files below the input directory are renamed one
after the other. Each is read when all before it have been written. -/
inductive Renamed (k : Task) : FileTree → List (List String) → FileTree → Prop where
  | nothing (t : FileTree) : k.Renamed t [] t
  | file {t t₁ t₂ t' : FileTree} {names : List String} {rest : List (List String)}
      {sheet : Stylesheet} (hmade : t.Written [] t₁)
      (hs : k.stylesheetBelow t₁ names = .ok sheet)
      (hw : t₁.Written (k.resultsBelow sheet names) t₂) (hrest : k.Renamed t₂ rest t') :
      k.Renamed t (names :: rest) t'

/-- Renaming files below a directory writes what belongs to them, in their order. -/
theorem Renamed.exists_written {k : Task} {t t' : FileTree} {files : List (List String)}
    (h : k.Renamed t files t') :
    ∃ ws, t.Written ws t' ∧ ws.map Prod.fst = files.flatMap k.pathsBelow := by
  induction h with
  | nothing t => exact ⟨[], .nothing t, rfl⟩
  | @file t t₁ t₂ t' names rest sheet hmade hs hw _ ih =>
    obtain ⟨ws, hrest, hpaths⟩ := ih
    refine ⟨k.resultsBelow sheet names ++ ws, (hmade.append hw).append hrest, ?_⟩
    rw [List.map_append, map_fst_resultsBelow, hpaths, List.flatMap_cons]

/-- One of the files is renamed when all before it have been, and all after it are renamed then. -/
theorem Renamed.exists_of_append {k : Task} {t t' : FileTree} {before after : List (List String)}
    {names : List String} (h : k.Renamed t (before ++ names :: after) t') :
    ∃ t₁ t₂ t₃ sheet, k.Renamed t before t₁ ∧ t₁.Written [] t₂ ∧
      k.stylesheetBelow t₂ names = .ok sheet ∧ t₂.Written (k.resultsBelow sheet names) t₃ ∧
      k.Renamed t₃ after t' := by
  induction before generalizing t with
  | nil =>
    cases h with
    | file hmade hs hw hrest => exact ⟨t, _, _, _, .nothing t, hmade, hs, hw, hrest⟩
  | cons first before ih =>
    cases h with
    | file hmade hs hw hrest =>
      obtain ⟨t₁, t₂, t₃, sheet, hbefore, hlater⟩ := ih hrest
      exact ⟨t₁, t₂, t₃, sheet, .file hmade hs hw hbefore, hlater⟩

/-- How renaming the given files can end: all are renamed, or one is not, with all before it
renamed. -/
inductive Ending (k : Task) (t : FileTree) (files : List (List String)) :
    Except Failure Stats → FileTree → Prop where
  | done {t' : FileTree} (total : Stats) (h : k.Renamed t files t') : k.Ending t files (.ok total) t'
  | unread {before after : List (List String)} {names : List String} {t₁ t' : FileTree}
      {f : Failure} (hfiles : files = before ++ names :: after) (h : k.Renamed t before t₁)
      (hmade : t₁.Written [] t') (hs : k.stylesheetBelow t' names = .error f) :
      k.Ending t files (.error f) t'
  | refused (e : OsError) (t' : FileTree) : k.Ending t files (.error (.refused e)) t'

end Task

theorem Task.Ending.cons {k : Task} {t t₁ t₂ t' : FileTree} {names : List String}
    {rest : List (List String)} {sheet : Stylesheet} {r : Except Failure Stats}
    (hmade : t.Written [] t₁) (hs : k.stylesheetBelow t₁ names = .ok sheet)
    (hw : t₁.Written (k.resultsBelow sheet names) t₂) (hrest : k.Ending t₂ rest r t') :
    k.Ending t (names :: rest) r t' := by
  cases hrest with
  | done total h => exact .done total (.file hmade hs hw h)
  | unread hfiles h hlast hfails =>
    rw [hfiles]
    exact .unread (List.cons_append ..).symm (.file hmade hs hw h) hlast hfails
  | refused e t' => exact .refused e t'

section Below

variable {level : Log.Level} {file : Config} {a : RenameArguments} {k : Task} {s s' : Session}
  {r : Except Failure Stats} (ho : (a.config file).options = .ok k.options)

include ho in
theorem Ends.of_renameBelow {names : List String}
    (h : Ends (renameBelow level file a k.input k.output k.map names) s r s') :
    (∃ t₁, s.files.Written [] t₁ ∧ Renames k.options (k.input.join names) (k.outputBelow names)
        (k.mapBelow names) t₁ r s'.files) ∨
      ∃ e, r = .error (.refused e) := by
  unfold renameBelow at h
  rw [Task.outputBelow, Task.mapBelow]
  cases houtput : k.output with
  | none =>
    rw [houtput] at h
    exact Or.inl ⟨_, .nothing _, renames_of_renameFile ho h⟩
  | some directory =>
    rw [houtput] at h
    obtain ⟨s₁, hmade, hrenamed | ⟨hrefused, -⟩⟩ := of_makeParent h
    · exact Or.inl ⟨_, hmade, renames_of_renameFile ho hrenamed⟩
    · exact Or.inr hrefused

include ho in
theorem Ends.of_renameFiles {files : List (List String)} {total : Stats}
    (h : Ends (files.foldlM (fun total names => do
      return total + (← renameBelow level file a k.input k.output k.map names)) total) s r s') :
    k.Ending s.files files r s'.files := by
  -- The induction is on the files that are left, over the trees that those before them leave.
  induction files generalizing total s with
  | nil =>
    obtain ⟨rfl, rfl⟩ := of_pure h
    exact .done total (.nothing _)
  | cons names rest ih =>
    rw [List.foldlM_cons] at h
    rcases of_bind h with ⟨total', s₁, hone, hrest⟩ | ⟨f, hone, rfl⟩
    · rcases of_bind hone with ⟨stats, s₂, hone, hadd⟩ | ⟨f, -, hf⟩
      · obtain ⟨-, rfl⟩ := of_pure hadd
        rcases of_renameBelow ho hone with ⟨t₁, hmade, hrenames⟩ | ⟨e, he⟩
        · cases hrenames with
          | done hs hw => exact .cons hmade hs hw (ih hrest)
        · cases he
      · cases hf
    · rcases of_bind hone with ⟨stats, s₂, hone, hadd⟩ | ⟨f', hone, hf⟩
      · cases (of_pure hadd).1
      · cases hf
        rcases of_renameBelow ho hone with ⟨t₁, hmade, hrenames⟩ | ⟨e, he⟩
        · generalize s'.files = t' at hrenames
          cases hrenames with
          | unread hs => exact .unread rfl (.nothing _) hmade hs
          | refused hs hw hpart e => exact .refused e _
        · cases he
          exact .refused e _

include ho in
theorem Ends.of_renameDirectory
    (h : Ends (renameDirectory level file a k.input k.output k.map) s r s') :
    k.Ending s.files (stylesheetsAmong (s.files.filesBelow k.input)) r s'.files := by
  unfold renameDirectory at h
  have hfiles := of_filesBelow h
  dsimp only at hfiles
  generalize stylesheetsAmong (s.files.filesBelow k.input) = files at hfiles ⊢
  split at hfiles
  · obtain ⟨s₁, hs₁, hfold⟩ := of_report (fun _ _ => of_log) hfiles
    rw [← hs₁]
    exact of_renameFiles ho hfold
  · exact of_renameFiles ho hfiles

end Below

end CustomProps.Command
