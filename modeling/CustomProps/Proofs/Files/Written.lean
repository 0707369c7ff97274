import CustomProps.Files.Tree
import Mathlib.Data.List.Basic
/-!
# Trees after files have been written

Making directories and writing files only adds to a tree or replaces the content of files: a
directory stays one, so a path that could be followed still leads where it led. What a tree holds
after some writes is read off the writes.
-/
namespace CustomProps

theorem exists_of_bind_eq_ok {ε α β : Type} {x : Except ε α} {f : α → Except ε β} {b : β}
    (h : x >>= f = .ok b) : ∃ a, x = .ok a ∧ f a = .ok b := by
  cases x with
  | error e => cases h
  | ok a => exact ⟨a, rfl, h⟩

theorem exists_of_map_eq_ok {ε α β : Type} {x : Except ε α} {f : α → β} {b : β}
    (h : x.map f = .ok b) : ∃ a, x = .ok a ∧ b = f a := by
  cases x with
  | error e => cases h
  | ok a =>
    cases h
    exact ⟨a, rfl, rfl⟩

namespace FileTree

variable {t t' : FileTree} {p : Path} {place : Place}

/-! ### Entries -/

theorem entry?_put {here : Place} (h : here ≠ []) (t : FileTree) (e : Entry) (place : Place) :
    FileTree.entry? (t.put here e) place = if place = here then some e else t.entry? place := by
  by_cases hnil : place = []
  · subst hnil
    rw [if_neg (Ne.symm h)]
    rfl
  · have hroot : place.isEmpty = false := by simp [hnil]
    unfold entry?
    rw [hroot, put]
    simp only [Bool.false_eq_true, if_false, List.lookup_cons]
    by_cases heq : place = here
    · subst heq
      simp
    · rw [if_neg heq, beq_false_of_ne heq]
      -- The entries that are put away are all at the other place.
      induction t.entries with
      | nil => rfl
      | cons old rest ih =>
        obtain ⟨at', e'⟩ := old
        by_cases hold : at' = here
        · subst hold
          simpa [List.lookup_cons, beq_false_of_ne heq] using ih
        · simp [hold, List.lookup_cons, ih]

/-! ### Following a path in a tree that has more directories -/

/-- The tree has all directories of `t`, and relative paths start where they did. -/
structure Extends (t t' : FileTree) : Prop where
  current : t'.current = t.current
  directory : ∀ place, t.entry? place = some .directory → t'.entry? place = some .directory

theorem Extends.refl (t : FileTree) : t.Extends t := ⟨rfl, fun _ h => h⟩

theorem Extends.trans {t'' : FileTree} (h : t.Extends t') (h' : t'.Extends t'') : t.Extends t'' :=
  ⟨h'.current.trans h.current, fun place hd => h'.directory place (h.directory place hd)⟩

theorem extends_put {here : Place} (hne : here ≠ []) {e : Entry}
    (h : t.entry? here = some .directory → e = .directory) : t.Extends (t.put here e) where
  current := rfl
  directory := by
    intro place hd
    rw [entry?_put hne]
    split
    · rename_i heq
      subst heq
      rw [h hd]
    · exact hd

theorem enter_eq_ok_iff {here : Place} {piece : String} :
    t.enter here piece = .ok place ↔ t.entry? here = some .directory ∧
      (if Path.isBlank piece then .ok here
        else if piece == ".." then .ok here.dropLast else child here piece) = .ok place := by
  unfold enter
  cases t.entry? here with
  | none => simp
  | some e =>
    cases e with
    | file content => simp
    | directory => simp

theorem Extends.enter (h : t.Extends t') {here : Place} {piece : String}
    (he : t.enter here piece = .ok place) : t'.enter here piece = .ok place := by
  rw [enter_eq_ok_iff] at he ⊢
  exact ⟨h.directory _ he.1, he.2⟩

theorem Extends.follow (h : t.Extends t') {pieces : List String} {here : Place}
    (hf : pieces.foldlM t.enter here = .ok place) : pieces.foldlM t'.enter here = .ok place := by
  induction pieces generalizing here with
  | nil => exact hf
  | cons piece rest ih =>
    rw [List.foldlM_cons] at hf ⊢
    obtain ⟨next, hnext, hrest⟩ := exists_of_bind_eq_ok hf
    rw [h.enter hnext]
    exact ih hrest

theorem Extends.origin (h : t.Extends t') (p : Path) : t'.origin p = t.origin p := by
  rw [FileTree.origin, FileTree.origin, h.current]

theorem Extends.locate (h : t.Extends t') (hl : t.locate p = .ok place) :
    t'.locate p = .ok place := by
  rw [FileTree.locate] at hl ⊢
  obtain ⟨here, ho, hf⟩ := exists_of_bind_eq_ok hl
  rw [h.origin, ho]
  exact h.follow hf

/-! ### One change -/

theorem read_eq_ok_iff {content : ByteArray} :
    t.read p = .ok content ↔
      ∃ place, t.locate p = .ok place ∧ t.entry? place = some (.file content) := by
  rw [read]
  cases t.locate p with
  | error e => simp [bind, Except.bind]
  | ok place =>
    simp only [bind, Except.bind, Except.ok.injEq, exists_eq_left']
    cases t.entry? place with
    | none => simp
    | some e =>
      cases e with
      | file old => simp
      | directory => simp

theorem ne_empty_of_withoutEndSlashes {last : String}
    (h : p.withoutEndSlashes.getLast? = some last) : last ≠ "" := by
  rintro rfl
  rw [Path.withoutEndSlashes, List.getLast?_reverse] at h
  have hnot := List.head?_dropWhile_not (fun piece : String => piece == "") p.pieces.reverse
  rw [h] at hnot
  cases hnot

/-- A name is added to a directory, at the place that the path leads to without slashes at its end. -/
theorem exists_of_target_named (h : t.target p = .ok (.named place)) : place ≠ [] ∧
    ∃ here, t.origin p = .ok here ∧ p.withoutEndSlashes.foldlM t.enter here = .ok place := by
  rw [target] at h
  obtain ⟨here, ho, h⟩ := exists_of_bind_eq_ok h
  dsimp only at h
  split at h
  · cases h
  · rename_i last hlast
    obtain ⟨parent, hparent, h⟩ := exists_of_bind_eq_ok h
    split at h
    · cases h
    · rename_i hfixed
      obtain ⟨place', hchild, h⟩ := exists_of_bind_eq_ok h
      cases h
      have hplace : place = parent ++ [last] := by
        unfold child at hchild
        split at hchild
        · cases hchild
        · exact (Except.ok.inj hchild).symm
      refine ⟨by simp [hplace], here, ho, ?_⟩
      rw [List.foldlM_append] at hparent
      obtain ⟨above, habove, hdot⟩ := exists_of_bind_eq_ok hparent
      rw [List.foldlM_cons] at hdot
      obtain ⟨same, hsame, hdone⟩ := exists_of_bind_eq_ok hdot
      cases hdone
      obtain ⟨hdirectory, hsame⟩ := enter_eq_ok_iff.mp hsame
      obtain rfl : above = parent := by simpa [Path.isBlank] using hsame
      have hblank : Path.isBlank last = false := by
        simp only [Bool.or_eq_true, beq_iff_eq, not_or] at hfixed
        simp [Path.isBlank, ne_empty_of_withoutEndSlashes hlast, hfixed.1]
      have hup : (last == "..") = false := by
        simp only [Bool.or_eq_true, beq_iff_eq, not_or] at hfixed
        simp [hfixed.2]
      have hname : t.enter above last = .ok place := by
        rw [enter_eq_ok_iff]
        refine ⟨hdirectory, ?_⟩
        rw [hblank, hup]
        exact hchild
      rw [← List.dropLast_append_getLast? last hlast, List.foldlM_append, habove]
      show [last].foldlM t.enter above = _
      rw [List.foldlM_cons, hname]
      rfl

theorem locate_of_target_named (h : t.target p = .ok (.named place))
    (hp : p.withoutEndSlashes = p.pieces) : t.locate p = .ok place := by
  obtain ⟨-, here, ho, hfollow⟩ := exists_of_target_named h
  rw [locate, ho, ← hp]
  exact hfollow

theorem exists_of_write {content : ByteArray} (h : t.write p content = .ok t') :
    ∃ place, place ≠ [] ∧ t.locate p = .ok place ∧ t.entry? place ≠ some .directory ∧
      t' = t.put place (.file content) := by
  rw [write] at h
  obtain ⟨target, htarget, h⟩ := exists_of_bind_eq_ok h
  cases target with
  | fixed => cases h
  | named place =>
    dsimp only at h
    split at h
    · cases h
    · rename_i hfree
      cases h
      simp only [Bool.or_eq_true, bne_iff_ne, not_or, Decidable.not_not] at hfree
      refine ⟨place, (exists_of_target_named htarget).1, locate_of_target_named htarget hfree.1,
        fun hd => hfree.2 ?_, rfl⟩
      rw [hd]
      rfl

theorem exists_of_makeDirectory (h : t.makeDirectory p = .ok t') :
    ∃ place, place ≠ [] ∧ t.entry? place = none ∧ t' = t.put place .directory := by
  rw [makeDirectory] at h
  obtain ⟨target, htarget, h⟩ := exists_of_bind_eq_ok h
  cases target with
  | fixed => cases h
  | named place =>
    dsimp only at h
    split at h
    · cases h
    · rename_i hfree
      cases h
      exact ⟨place, (exists_of_target_named htarget).1, by simpa using hfree, rfl⟩

/-! ### Many changes -/

/-- The tree `t'` is what becomes of `t` when directories are made and the given files are written,
in this order. -/
inductive Written : FileTree → List (Path × String) → FileTree → Prop where
  | nothing (t : FileTree) : Written t [] t
  | directory {t t₁ t' : FileTree} {ws : List (Path × String)} {p : Path}
      (h : t.makeDirectory p = .ok t₁) (rest : Written t₁ ws t') : Written t ws t'
  | file {t t₁ t' : FileTree} {ws : List (Path × String)} {p : Path} {content : String}
      (h : t.write p content.toUTF8 = .ok t₁) (rest : Written t₁ ws t') :
      Written t ((p, content) :: ws) t'

/-- Apart from the given paths, the tree `t'` has the files of `t` with their content, and no
others. -/
def SparedIn (t t' : FileTree) (paths : List Path) : Prop :=
  ∀ place, (∀ p ∈ paths, t'.locate p ≠ .ok place) →
    ∀ content, t'.entry? place = some (.file content) ↔ t.entry? place = some (.file content)

namespace Written

variable {ws ws' : List (Path × String)}

theorem append {t'' : FileTree} (h : t.Written ws t') (h' : t'.Written ws' t'') :
    t.Written (ws ++ ws') t'' := by
  induction h with
  | nothing t => exact h'
  | directory h _ ih => exact directory h (ih h')
  | file h _ ih => exact file h (ih h')

theorem exists_of_append (h : t.Written (ws ++ ws') t') :
    ∃ t₁, t.Written ws t₁ ∧ t₁.Written ws' t' := by
  generalize hall : ws ++ ws' = all at h
  induction h generalizing ws with
  | nothing t =>
    obtain ⟨rfl, rfl⟩ := List.append_eq_nil_iff.mp hall
    exact ⟨t, .nothing t, .nothing t⟩
  | directory h _ ih =>
    obtain ⟨t₁, hfirst, hrest⟩ := ih hall
    exact ⟨t₁, .directory h hfirst, hrest⟩
  | @file t t₁ t' _ p content h rest ih =>
    cases ws with
    | nil =>
      rw [List.nil_append] at hall
      subst hall
      exact ⟨t, .nothing t, .file h rest⟩
    | cons w ws =>
      obtain ⟨rfl, hrest⟩ := List.cons.inj hall
      obtain ⟨t₁, hfirst, hrest⟩ := ih hrest
      exact ⟨t₁, .file h hfirst, hrest⟩

theorem extension (h : t.Written ws t') : t.Extends t' := by
  induction h with
  | nothing t => exact .refl t
  | directory h _ ih =>
    obtain ⟨place, hne, -, rfl⟩ := exists_of_makeDirectory h
    exact (extends_put hne fun _ => rfl).trans ih
  | file h _ ih =>
    obtain ⟨place, hne, -, hfile, rfl⟩ := exists_of_write h
    exact (extends_put hne fun hd => absurd hd hfile).trans ih

theorem exists_of_file {t₁ : FileTree} {content : ByteArray} (h : t.write p content = .ok t₁)
    (rest : t₁.Written ws t') :
    ∃ place, place ≠ [] ∧ t'.locate p = .ok place ∧ t₁ = t.put place (.file content) := by
  obtain ⟨place, hne, hlocate, hfile, rfl⟩ := exists_of_write h
  have hput : t.Extends (t.put place (.file content)) :=
    extends_put hne fun hd => absurd hd hfile
  exact ⟨place, hne, rest.extension.locate (hput.locate hlocate), rfl⟩

theorem exists_locate (h : t.Written ws t') : ∀ w ∈ ws, ∃ place, t'.locate w.1 = .ok place := by
  induction h with
  | nothing t => simp
  | directory _ _ ih => exact ih
  | file h rest ih =>
    obtain ⟨place, -, hlocate, -⟩ := exists_of_file h rest
    intro w hw
    rcases List.mem_cons.mp hw with rfl | hw
    · exact ⟨place, hlocate⟩
    · exact ih w hw

theorem entry?_eq_some (h : t.Written ws t') {e : Entry} (he : t.entry? place = some e)
    (hout : ∀ w ∈ ws, t'.locate w.1 ≠ .ok place) : t'.entry? place = some e := by
  induction h with
  | nothing t => exact he
  | directory h _ ih =>
    obtain ⟨made, hne, hfree, rfl⟩ := exists_of_makeDirectory h
    refine ih ?_ hout
    rw [entry?_put hne, if_neg, he]
    rintro rfl
    rw [hfree] at he
    cases he
  | file h rest ih =>
    obtain ⟨written, hne, hlocate, rfl⟩ := exists_of_file h rest
    refine ih ?_ fun w hw => hout w (List.mem_cons_of_mem _ hw)
    rw [entry?_put hne, if_neg, he]
    rintro rfl
    exact hout _ List.mem_cons_self hlocate

/-- A file has been there before, or is one that was written. -/
theorem file_cases (h : t.Written ws t') {content : ByteArray}
    (he : t'.entry? place = some (.file content)) :
    t.entry? place = some (.file content) ∨
      ∃ w ∈ ws, t'.locate w.1 = .ok place ∧ w.2.toUTF8 = content := by
  induction h with
  | nothing t => exact Or.inl he
  | directory h _ ih =>
    obtain ⟨made, hne, -, rfl⟩ := exists_of_makeDirectory h
    rcases ih he with hold | hnew
    · rw [entry?_put hne] at hold
      split at hold
      · cases hold
      · exact Or.inl hold
    · exact Or.inr hnew
  | file h rest ih =>
    obtain ⟨written, hne, hlocate, rfl⟩ := exists_of_file h rest
    rcases ih he with hold | ⟨w, hw, hnew⟩
    · rw [entry?_put hne] at hold
      split at hold
      · rename_i heq
        subst heq
        cases hold
        exact Or.inr ⟨_, List.mem_cons_self, hlocate, rfl⟩
      · exact Or.inl hold
    · exact Or.inr ⟨w, List.mem_cons_of_mem _ hw, hnew⟩

/-- A file holds what was last written to it. -/
theorem read_eq_ok {content : String} (h : t.Written ((p, content) :: ws) t')
    (hlast : ∀ w ∈ ws, t'.locate w.1 ≠ t'.locate p) : t'.read p = .ok content.toUTF8 := by
  generalize hall : (p, content) :: ws = all at h
  -- Directories may be made before the file is written; what comes after it is none of its writes.
  induction h with
  | nothing t => cases hall
  | directory _ _ ih => exact ih hlast hall
  | file h rest =>
    cases hall
    obtain ⟨place, hne, hlocate, rfl⟩ := exists_of_file h rest
    rw [read_eq_ok_iff]
    refine ⟨place, hlocate, rest.entry?_eq_some ?_ fun w hw => ?_⟩
    · rw [entry?_put hne, if_pos rfl]
    · rw [← hlocate]
      exact hlast w hw

theorem spared (h : t.Written ws t') : t.SparedIn t' (ws.map Prod.fst) := by
  intro place hout content
  have hout : ∀ w ∈ ws, t'.locate w.1 ≠ .ok place := fun w hw =>
    hout w.1 (List.mem_map_of_mem hw)
  constructor
  · intro hnew
    rcases h.file_cases hnew with hold | ⟨w, hw, hplace, -⟩
    · exact hold
    · exact absurd hplace (hout w hw)
  · exact fun hold => h.entry?_eq_some hold hout

theorem exists_file (h : t.Written ws t') {place : Place} {content : ByteArray}
    (he : t.entry? place = some (.file content)) :
    ∃ content, t'.entry? place = some (.file content) := by
  induction h generalizing content with
  | nothing t => exact ⟨content, he⟩
  | directory h _ ih =>
    obtain ⟨made, hne, hfree, rfl⟩ := exists_of_makeDirectory h
    have hother : place ≠ made := by
      rintro rfl
      rw [hfree] at he
      cases he
    exact ih (by rw [entry?_put hne, if_neg hother, he])
  | @file t t₁ t' ws p text h _ ih =>
    obtain ⟨written, hne, -, -, rfl⟩ := exists_of_write h
    by_cases hplace : place = written
    · exact ih (by rw [entry?_put hne, if_pos hplace])
    · exact ih (by rw [entry?_put hne, if_neg hplace, he])

theorem exists_read (h : t.Written ws t') : ∀ w ∈ ws, ∃ content, t'.read w.1 = .ok content := by
  induction h with
  | nothing t => simp
  | directory _ _ ih => exact ih
  | @file t t₁ t' ws p text h rest ih =>
    obtain ⟨place, hne, hlocate, rfl⟩ := exists_of_file h rest
    intro w hw
    rcases List.mem_cons.mp hw with rfl | hw
    · have hput : FileTree.entry? (t.put place (.file text.toUTF8)) place =
          some (.file text.toUTF8) := by
        rw [entry?_put hne, if_pos rfl]
      obtain ⟨content, hfile⟩ := rest.exists_file hput
      exact ⟨content, read_eq_ok_iff.mpr ⟨place, hlocate, hfile⟩⟩
    · exact ih w hw

end Written

end FileTree
end CustomProps
