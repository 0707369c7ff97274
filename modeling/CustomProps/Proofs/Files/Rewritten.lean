import CustomProps.Proofs.Files.Below
import Mathlib.Data.List.Induction
import Mathlib.Data.List.TakeWhile
/-!
# Trees written to once more

A tree that still has the directories and files of another takes the same writes, and makes no
directory anew. If all that is written again is what was written before, nothing changes. A
list of files that keeps none of the names written stays as it was.
-/
namespace CustomProps

namespace Path

theorem exists_endSlashes (p : Path) : ∃ slashes : List String,
    p.pieces = p.withoutEndSlashes ++ slashes ∧ ∀ piece ∈ slashes, isBlank piece = true := by
  refine ⟨(p.pieces.reverse.takeWhile (· == "")).reverse, ?_, ?_⟩
  · rw [withoutEndSlashes, ← List.reverse_append, List.takeWhile_append_dropWhile,
      List.reverse_reverse]
  · intro piece hpiece
    have hempty := List.mem_takeWhile_imp (List.mem_reverse.mp hpiece)
    rw [isBlank, hempty]
    rfl

end Path

namespace FileTree

variable {t t' : FileTree} {p : Path} {place : Place}

/-! ### Directories that are there -/

theorem isDirectory_iff : t.isDirectory p = true ↔
    ∃ here, t.locate p = .ok here ∧ t.entry? here = some .directory := by
  rw [isDirectory]
  cases t.locate p with
  | error e => simp
  | ok here =>
    cases hentry : t.entry? here with
    | none => simp [hentry]
    | some e =>
      cases e with
      | file content => simp [hentry, Entry.isDirectory]
      | directory => simp [hentry, Entry.isDirectory]

theorem Extends.isDirectory (h : t.Extends t') (hd : t.isDirectory p = true) :
    t'.isDirectory p = true := by
  obtain ⟨here, hlocate, hentry⟩ := isDirectory_iff.mp hd
  exact isDirectory_iff.mpr ⟨here, h.locate hlocate, h.directory here hentry⟩

theorem follow_blanks {pieces : List String} (hblank : ∀ piece ∈ pieces, Path.isBlank piece = true)
    (h : t.entry? place = some .directory) : pieces.foldlM t.enter place = .ok place := by
  induction pieces with
  | nil => rfl
  | cons piece rest ih =>
    rw [List.foldlM_cons, enter_blank (hblank piece List.mem_cons_self) h]
    exact ih fun piece hpiece => hblank piece (List.mem_cons_of_mem _ hpiece)

theorem directory_of_blanks {pieces : List String} {here : Place}
    (hblank : ∀ piece ∈ pieces, Path.isBlank piece = true)
    (h : pieces.foldlM t.enter here = .ok place) (hplace : t.entry? place = some .directory) :
    t.entry? here = some .directory := by
  cases pieces with
  | nil =>
    cases h
    exact hplace
  | cons piece rest =>
    rw [List.foldlM_cons] at h
    obtain ⟨next, hnext, -⟩ := exists_of_bind_eq_ok h
    exact (enter_eq_ok_iff.mp hnext).1

theorem Extends.target (h : t.Extends t') {goal : Target} (ht : t.target p = .ok goal) :
    t'.target p = .ok goal := by
  rw [FileTree.target] at ht ⊢
  obtain ⟨here, ho, hrest⟩ := exists_of_bind_eq_ok ht
  rw [h.origin, ho]
  dsimp only [bind, Except.bind] at hrest ⊢
  cases hlast : p.withoutEndSlashes.getLast? with
  | none =>
    rw [hlast] at hrest
    exact hrest
  | some last =>
    rw [hlast] at hrest
    dsimp only at hrest ⊢
    cases hparent : (p.withoutEndSlashes.dropLast ++ ["."]).foldlM t.enter here with
    | error e =>
      rw [hparent] at hrest
      cases hrest
    | ok parent =>
      rw [hparent] at hrest
      rw [h.follow hparent]
      exact hrest

theorem target_of_follow {here parent : Place} {front : List String} {last : String}
    (ho : t.origin p = .ok here) (hp : p.withoutEndSlashes = front ++ [last])
    (hfollow : front.foldlM t.enter here = .ok parent)
    (hparent : t.entry? parent = some .directory) :
    t.target p = if last == "." || last == ".." then .ok .fixed
      else (child parent last).map .named := by
  have hdot : (front ++ ["."]).foldlM t.enter here = .ok parent := by
    rw [List.foldlM_append, hfollow]
    show ["."].foldlM t.enter parent = _
    rw [List.foldlM_cons, enter_blank (by decide) hparent]
    rfl
  rw [target, ho, hp]
  simp only [bind, Except.bind, List.getLast?_concat, List.dropLast_concat, hdot]
  split
  · rfl
  · cases child parent last with
    | error e => rfl
    | ok place => rfl

/-- Where a directory is, a path to it names no place for a new one. -/
theorem makeDirectory_of_isDirectory (h : t.isDirectory p = true) :
    t.makeDirectory p = .error .alreadyExists := by
  obtain ⟨place, hlocate, hplace⟩ := isDirectory_iff.mp h
  obtain ⟨slashes, hpieces, hblank⟩ := p.exists_endSlashes
  rw [locate] at hlocate
  obtain ⟨here, ho, hfollow⟩ := exists_of_bind_eq_ok hlocate
  rw [hpieces, List.foldlM_append] at hfollow
  obtain ⟨there, hthere, hslashes⟩ := exists_of_bind_eq_ok hfollow
  have hdirectory : t.entry? there = some .directory := directory_of_blanks hblank hslashes hplace
  rw [makeDirectory]
  cases hw : p.withoutEndSlashes using List.reverseRecOn with
  | nil =>
    rw [target, ho, hw]
    rfl
  | append_singleton front last =>
    rw [hw, List.foldlM_append] at hthere
    obtain ⟨parent, hparent, hlast⟩ := exists_of_bind_eq_ok hthere
    rw [List.foldlM_cons] at hlast
    obtain ⟨next, hnext, hdone⟩ := exists_of_bind_eq_ok hlast
    cases hdone
    obtain ⟨habove, hname⟩ := enter_eq_ok_iff.mp hnext
    rw [target_of_follow ho hw hparent habove]
    split
    · rfl
    · rename_i hnamed
      simp only [Bool.or_eq_true, beq_iff_eq, not_or] at hnamed
      have hblank : Path.isBlank last = false := by
        have hlast : p.withoutEndSlashes.getLast? = some last := by
          rw [hw, List.getLast?_concat]
        simp [Path.isBlank, ne_empty_of_withoutEndSlashes hlast, hnamed.1]
      rw [if_neg (by simp [hblank]), if_neg (by simp [hnamed.2])] at hname
      rw [hname]
      show (if (t.entry? there).isSome then _ else _) = _
      rw [hdirectory]
      rfl

/-- A directory that was made is where its path leads, also with slashes at its end. -/
theorem isDirectory_of_makeDirectory (h : t.makeDirectory p = .ok t') :
    t'.isDirectory p = true := by
  have hext : t.Extends t' := (Written.directory h (.nothing t')).extension
  rw [makeDirectory] at h
  obtain ⟨goal, htarget, hmade⟩ := exists_of_bind_eq_ok h
  cases goal with
  | fixed => cases hmade
  | named place =>
    dsimp only at hmade
    split at hmade
    · cases hmade
    · cases hmade
      obtain ⟨hne, here, ho, hfollow⟩ := exists_of_target_named htarget
      obtain ⟨slashes, hpieces, hblank⟩ := p.exists_endSlashes
      have hplace : FileTree.entry? (t.put place .directory) place = some .directory := by
        rw [entry?_put hne, if_pos rfl]
      refine isDirectory_iff.mpr ⟨place, ?_, hplace⟩
      rw [locate, hext.origin, ho, hpieces]
      show (p.withoutEndSlashes ++ slashes).foldlM _ here = _
      rw [List.foldlM_append, hext.follow hfollow]
      exact follow_blanks hblank hplace

/-! ### Trees that go on from others -/

section

variable {loose : Place → Prop}

/-- The tree `t'` has the directories and files of `t`. Only at loose places may a file have another
content. -/
structure Continues (loose : Place → Prop) (t t' : FileTree) : Prop extends t.Extends t' where
  file : ∀ place content, t.entry? place = some (.file content) →
    ∃ content', t'.entry? place = some (.file content')
  content : ∀ place content, ¬loose place → t.entry? place = some (.file content) →
    t'.entry? place = some (.file content)

theorem Continues.refl (t : FileTree) : Continues loose t t where
  toExtends := .refl t
  file := fun _ content h => ⟨content, h⟩
  content := fun _ _ _ h => h

theorem Continues.trans {t'' : FileTree} (h : Continues loose t t')
    (h' : Continues loose t' t'') : Continues loose t t'' where
  toExtends := h.toExtends.trans h'.toExtends
  file := by
    intro place content hfile
    obtain ⟨content', hfile'⟩ := h.file place content hfile
    exact h'.file place content' hfile'
  content := fun place content hplace hfile =>
    h'.content place content hplace (h.content place content hplace hfile)

/-- Files are written, all of them at loose places. -/
structure WrittenWithin (loose : Place → Prop) (t : FileTree) (ws : List (Path × String))
    (t' : FileTree) : Prop where
  written : t.Written ws t'
  loose : ∀ w ∈ ws, ∀ (u : FileTree) place, u.locate w.1 = .ok place → loose place

namespace WrittenWithin

variable {ws ws' : List (Path × String)}

theorem nothing (t : FileTree) : WrittenWithin loose t [] t where
  written := .nothing t
  loose := by simp

theorem again {u u' : FileTree} (h : WrittenWithin loose t ws t') (hu : u.Written ws u') :
    WrittenWithin loose u ws u' := ⟨hu, h.loose⟩

theorem append {t'' : FileTree} (h : WrittenWithin loose t ws t')
    (h' : WrittenWithin loose t' ws' t'') : WrittenWithin loose t (ws ++ ws') t'' where
  written := h.written.append h'.written
  loose := by
    intro w hw
    rcases List.mem_append.mp hw with hw | hw
    · exact h.loose w hw
    · exact h'.loose w hw

theorem ne_of_not_loose (h : WrittenWithin loose t ws t') (hplace : ¬loose place) :
    ∀ w ∈ ws, t'.locate w.1 ≠ .ok place :=
  fun w hw hlocate => hplace (h.loose w hw t' place hlocate)

theorem continues (h : WrittenWithin loose t ws t') : Continues loose t t' where
  toExtends := h.written.extension
  file := fun _ _ hfile => h.written.exists_file hfile
  content := fun _ _ hplace hfile => h.written.entry?_eq_some hfile (h.ne_of_not_loose hplace)

theorem file_iff (h : WrittenWithin loose t ws t') (hplace : ¬loose place) (content : ByteArray) :
    t'.entry? place = some (.file content) ↔ t.entry? place = some (.file content) := by
  refine h.written.spared place (fun q hq => ?_) content
  obtain ⟨w, hw, rfl⟩ := List.mem_map.mp hq
  exact h.ne_of_not_loose hplace w hw

end WrittenWithin

theorem Continues.read (h : Continues loose t t')
    (hloose : ∀ place, t.locate p = .ok place → ¬loose place) {content : ByteArray}
    (hread : t.read p = .ok content) : t'.read p = .ok content := by
  obtain ⟨place, hlocate, hfile⟩ := read_eq_ok_iff.mp hread
  have hsame := h.content place content (hloose place hlocate) hfile
  exact read_eq_ok_iff.mpr ⟨place, h.locate hlocate, hsame⟩

/-! ### Writing once more -/

/-- Files are written, and nothing is added. -/
structure Rewrites (t : FileTree) (ws : List (Path × String)) (t' : FileTree) : Prop where
  written : t.Written ws t'
  free : ∀ place, t.entry? place = none → t'.entry? place = none

theorem Rewrites.nothing (t : FileTree) : t.Rewrites [] t := ⟨.nothing t, fun _ h => h⟩

theorem Rewrites.append {t'' : FileTree} {ws ws' : List (Path × String)} (h : t.Rewrites ws t')
    (h' : t'.Rewrites ws' t'') : t.Rewrites (ws ++ ws') t'' :=
  ⟨h.written.append h'.written, fun place hfree => h'.free place (h.free place hfree)⟩

/-- A file that has been written can be written again. -/
theorem exists_write_of_continues {u : FileTree} {content : String}
    (hw : t.write p content.toUTF8 = .ok t') (hu : Continues loose t' u) :
    ∃ u', u.write p content.toUTF8 = .ok u' ∧ u.Rewrites [(p, content)] u' := by
  have hext : t.Extends u := (Written.file hw (.nothing t')).extension.trans hu.toExtends
  rw [write] at hw
  obtain ⟨goal, htarget, hmade⟩ := exists_of_bind_eq_ok hw
  cases goal with
  | fixed => cases hmade
  | named place =>
    have hne : place ≠ [] := (exists_of_target_named htarget).1
    dsimp only at hmade
    split at hmade
    · cases hmade
    · rename_i hfree
      cases hmade
      obtain ⟨old, hold⟩ := hu.file place content.toUTF8 (by rw [entry?_put hne, if_pos rfl])
      have hwrite : u.write p content.toUTF8 = .ok (u.put place (.file content.toUTF8)) := by
        simp only [Bool.or_eq_true, not_or] at hfree
        rw [write, hext.target htarget]
        show (if _ then _ else _) = _
        rw [if_neg]
        simp [hfree.1, hold, Entry.isDirectory]
      refine ⟨_, hwrite, .file hwrite (.nothing _), fun other hother => ?_⟩
      rw [entry?_put hne, if_neg, hother]
      rintro rfl
      cases hold.symm.trans hother

theorem exists_last {α : Type} {P : α → Prop} {l : List α} (h : ∃ a ∈ l, P a) :
    ∃ before a after, l = before ++ a :: after ∧ P a ∧ ∀ b ∈ after, ¬P b := by
  induction l with
  | nil => simp at h
  | cons first rest ih =>
    by_cases hrest : ∃ a ∈ rest, P a
    · obtain ⟨before, a, after, rfl, ha, hafter⟩ := ih hrest
      exact ⟨first :: before, a, after, rfl, ha, hafter⟩
    · obtain ⟨a, hmem, ha⟩ := h
      rcases List.mem_cons.mp hmem with rfl | hmem
      · exact ⟨[], a, rest, rfl, ha, fun b hb hpb => hrest ⟨b, hb, hpb⟩⟩
      · exact absurd ⟨a, hmem, ha⟩ hrest

theorem Written.entry?_eq_file {ws ws' : List (Path × String)} {w : Path × String}
    (h : t.Written (ws ++ w :: ws') t') (hplace : t'.locate w.1 = .ok place)
    (hlast : ∀ v ∈ ws', ¬t'.locate v.1 = .ok place) :
    t'.entry? place = some (.file w.2.toUTF8) := by
  obtain ⟨t₁, -, hrest⟩ := h.exists_of_append
  have hread := hrest.read_eq_ok (by rwa [hplace])
  obtain ⟨place', hlocate, hfile⟩ := read_eq_ok_iff.mp hread
  cases hlocate.symm.trans hplace
  exact hfile

/-- The same writes once more change nothing: what was written to holds what was written there last,
and all else what it held. -/
theorem Rewrites.entry?_eq {t'' : FileTree} {ws : List (Path × String)} (h : t.Written ws t')
    (h' : t'.Rewrites ws t'') (place : Place) : t''.entry? place = t'.entry? place := by
  have hlocate : ∀ w ∈ ws, t''.locate w.1 = t'.locate w.1 := by
    intro w hw
    obtain ⟨there, hthere⟩ := h.exists_locate w hw
    rw [hthere, h'.written.extension.locate hthere]
  by_cases hwritten : ∃ w ∈ ws, t'.locate w.1 = .ok place
  · obtain ⟨before, w, after, rfl, hplace, hafter⟩ := exists_last hwritten
    have hplace' : t''.locate w.1 = .ok place := by
      rw [hlocate w (by simp), hplace]
    rw [h.entry?_eq_file hplace hafter, h'.written.entry?_eq_file hplace' ?_]
    intro v hv
    rw [hlocate v (by simp [hv])]
    exact hafter v hv
  · have hspared : ∀ w ∈ ws, t''.locate w.1 ≠ .ok place := by
      intro w hw
      rw [hlocate w hw]
      exact fun hplace => hwritten ⟨w, hw, hplace⟩
    cases hentry : t'.entry? place with
    | none => exact h'.free place hentry
    | some e => exact h'.written.entry?_eq_some hentry hspared

/-! ### Files that are listed -/

variable {keep : List String → Bool} {ws : List (Path × String)}

/-- The names of an entry from a directory on, if it is a file there and is kept. -/
def listing (keep : List String → Bool) (here : Place) (e : Place × Entry) : Option (List String) :=
  match e.2 with
  | .file _ => if here.isPrefixOf e.1 && keep (e.1.drop here.length) then
      some (e.1.drop here.length) else none
  | .directory => none

theorem filter_filesBelowPlace (t : FileTree) (keep : List String → Bool) (here : Place) :
    ((t.filesBelowPlace here).map Prod.fst).filter keep = t.entries.filterMap (listing keep here) := by
  rw [filesBelowPlace, List.map_filterMap, List.filter_filterMap]
  refine List.filterMap_congr fun e _ => ?_
  obtain ⟨place, entry⟩ := e
  cases entry with
  | directory => rfl
  | file content =>
    rw [listing]
    dsimp only
    cases here.isPrefixOf place with
    | false => rfl
    | true =>
      cases hkept : keep (place.drop here.length) with
      | false => simp [Option.filter, hkept]
      | true => simp [Option.filter, hkept]

theorem filterMap_put {place here : Place} {e : Entry} (hnew : listing keep here (place, e) = none)
    (hold : ∀ old ∈ t.entries, old.1 = place → listing keep here old = none) :
    (t.put place e).entries.filterMap (listing keep here) =
      t.entries.filterMap (listing keep here) := by
  rw [put, List.filterMap_cons, hnew, List.filterMap_filter]
  refine List.filterMap_congr fun old hmem => ?_
  by_cases hplace : old.1 = place
  · simp [hplace, hold old hmem hplace]
  · simp [hplace]

theorem listing_of_loose (hkeep : ∀ place n, loose place → keep (place.drop n) = false)
    {place here : Place} (h : loose place) (e : Entry) : listing keep here (place, e) = none := by
  cases e with
  | directory => rfl
  | file content => simp [listing, hkeep place here.length h]

theorem ne_of_entry?_eq_none {place : Place} (h : t.entry? place = none) :
    ∀ old ∈ t.entries, old.1 ≠ place := by
  rintro old hmem rfl
  unfold entry? at h
  split at h
  · cases h
  · simpa using List.lookup_eq_none_iff.mp h old hmem

/-- Files that are written at loose places only do not show in a list that keeps none of them. -/
theorem filter_filesBelow_of_written (hkeep : ∀ place n, loose place → keep (place.drop n) = false)
    (h : WrittenWithin loose t ws t') {p : Path} (hp : t.isDirectory p = true) :
    (t'.filesBelow p).filter keep = (t.filesBelow p).filter keep := by
  obtain ⟨here, hlocate, -⟩ := isDirectory_iff.mp hp
  rw [filesBelow, filesBelow, h.written.extension.locate hlocate, hlocate]
  dsimp only
  rw [filter_filesBelowPlace, filter_filesBelowPlace]
  obtain ⟨hwritten, hloose⟩ := h
  clear hlocate hp
  induction hwritten with
  | nothing t => rfl
  | directory h _ ih =>
    obtain ⟨place, hne, hfree, rfl⟩ := exists_of_makeDirectory h
    rw [ih hloose]
    refine filterMap_put rfl fun old hmem hplace => ?_
    exact absurd hplace (ne_of_entry?_eq_none hfree old hmem)
  | @file t t₁ t' ws p content h _ ih =>
    obtain ⟨place, -, hlocate, -, rfl⟩ := exists_of_write h
    have hplace : loose place := hloose _ List.mem_cons_self t place hlocate
    rw [ih fun w hw => hloose w (List.mem_cons_of_mem _ hw)]
    refine filterMap_put (listing_of_loose hkeep hplace _) fun old _ hold => ?_
    exact listing_of_loose hkeep (hold ▸ hplace) old.2

end

end FileTree
end CustomProps
