import CustomProps.Proofs.Files.Below
import Mathlib.Data.List.Induction
/-!
# Sound trees

In a sound tree whatever stands somewhere stands in a directory, under a name that an entry can have.
Such a tree has the files below a directory where the names lead that are listed for them, so what is
read there after some writes was there before, unless it is one of the writes.
-/
namespace CustomProps.FileTree

structure Sound (t : FileTree) : Prop where
  named : ∀ e ∈ t.entries, ∀ name ∈ e.1, Path.IsEntryName name
  rooted : ∀ e ∈ t.entries, (t.entry? e.1.dropLast).any Entry.isDirectory

instance (t : FileTree) : Decidable t.Sound :=
  decidable_of_iff ((∀ e ∈ t.entries, ∀ name ∈ e.1, Path.IsEntryName name) ∧
      ∀ e ∈ t.entries, (t.entry? e.1.dropLast).any Entry.isDirectory)
    ⟨fun h => ⟨h.1, h.2⟩, fun h => ⟨h.named, h.rooted⟩⟩

variable {t t' : FileTree} {here place : Place} {p : Path} {names : List String}

theorem Sound.directory_of_child (ht : t.Sound) {name : String}
    (h : (t.entry? (place ++ [name])).isSome) : t.entry? place = some .directory := by
  have hroot : (place ++ [name]).isEmpty = false := by simp
  unfold entry? at h
  rw [hroot, if_neg (by simp), List.lookup_isSome_iff] at h
  obtain ⟨e, he, hplace⟩ := h
  have hdirectory := ht.rooted e he
  rw [← eq_of_beq hplace, List.dropLast_concat] at hdirectory
  obtain ⟨above, habove, hkind⟩ := (Option.any_eq_true _ _).mp hdirectory
  cases above with
  | directory => exact habove
  | file content => cases hkind

/-! ### Files below a directory -/

theorem exists_of_mem_filesBelow (h : names ∈ t.filesBelow p) :
    ∃ e ∈ t.entries, ∀ name ∈ names, name ∈ e.1 := by
  unfold filesBelow at h
  split at h
  · rename_i here _
    obtain ⟨⟨names', content⟩, hmem, rfl⟩ := List.mem_map.mp h
    obtain ⟨⟨place, e⟩, he, hfile⟩ := List.mem_filterMap.mp hmem
    refine ⟨_, he, fun name hname => ?_⟩
    dsimp only at hfile
    split at hfile
    · split at hfile
      · cases hfile
        exact List.mem_of_mem_drop hname
      · cases hfile
    · cases hfile
  · cases h

theorem Sound.isEntryName (ht : t.Sound) (h : names ∈ t.filesBelow p) :
    ∀ name ∈ names, Path.IsEntryName name := by
  obtain ⟨e, he, hnames⟩ := exists_of_mem_filesBelow h
  exact fun name hname => ht.named e he name (hnames name hname)

theorem Sound.directory_above (ht : t.Sound) (hne : names ≠ [])
    (h : (t.entry? (here ++ names)).isSome) : t.entry? here = some .directory := by
  induction names using List.reverseRecOn with
  | nil => exact absurd rfl hne
  | append_singleton names name ih =>
    have habove : t.entry? (here ++ names) = some .directory :=
      ht.directory_of_child (by rwa [List.append_assoc])
    cases names with
    | nil => rwa [List.append_nil] at habove
    | cons first rest => exact ih (List.cons_ne_nil _ _) (by rw [habove]; rfl)

/-! ### Back to the tree before -/

theorem Extends.leads (h : t.Extends t') {pieces : List String} (hl : t.Leads pieces here) :
    t'.Leads pieces here := by
  have hstart : t'.start pieces = t.start pieces := by rw [start, start, h.current]
  rw [Leads, hstart]
  exact h.follow hl

theorem origin_eq_start_front (h : t.origin p = .ok here) : here = t.start p.front := by
  rw [origin] at h
  split at h
  · cases h
  · split at h
    · cases h
    · rw [start, Path.front]
      split at h
      · rename_i next rest hpieces
        cases h
        rw [hpieces, List.dropLast_cons_cons]
        split
        · rfl
        · rfl
      · rename_i hrelative
        split at h
        · cases h
        · rename_i hempty
          cases h
          refine (if_neg ?_).symm
          cases hpieces : p.pieces with
          | nil => simp
          | cons piece rest =>
            have hroot : piece ≠ "" := by
              rintro rfl
              cases rest with
              | nil => exact hempty (by rw [Path.isEmpty, hpieces]; rfl)
              | cons next rest => exact hrelative next rest hpieces
            cases rest with
            | nil => simp [hroot]
            | cons next rest =>
              rw [List.dropLast_cons_cons]
              split
              · simpa using hroot
              · simpa using hroot

theorem leads_of_locate (h : t.locate p = .ok place) : t.Leads p.front place := by
  rw [locate] at h
  obtain ⟨here, horigin, hfollow⟩ := exists_of_bind_eq_ok h
  rw [Leads, ← origin_eq_start_front horigin, Path.front]
  split
  · rename_i hlast
    rw [← List.dropLast_append_getLast? "" hlast, List.foldlM_append] at hfollow
    obtain ⟨above, habove, hsame⟩ := exists_of_bind_eq_ok hfollow
    rw [List.foldlM_cons] at hsame
    obtain ⟨place', henter, hdone⟩ := exists_of_bind_eq_ok hsame
    cases hdone
    have : above = place := by simpa [Path.isBlank] using (enter_eq_ok_iff.mp henter).2
    rw [habove, this]
  · exact hfollow

/-- Names that lead somewhere after some directories have been added lead there before, if something
stands there. -/
theorem Sound.follow_of_extends (ht : t.Sound) (hnames : ∀ name ∈ names, Path.IsEntryName name)
    (hfollow : names.foldlM t'.enter here = .ok place)
    (hthere : (t.entry? (here ++ names)).isSome) : names.foldlM t.enter here = .ok place := by
  induction names generalizing here with
  | nil => exact hfollow
  | cons name rest ih =>
    rw [List.foldlM_cons] at hfollow ⊢
    obtain ⟨next, hnext, hrest⟩ := exists_of_bind_eq_ok hfollow
    -- Something stands further on, so in a sound tree this is a directory already.
    have hdirectory := ht.directory_above (List.cons_ne_nil name rest) hthere
    have henter : t.enter here name = .ok next :=
      enter_eq_ok_iff.mpr ⟨hdirectory, (enter_eq_ok_iff.mp hnext).2⟩
    have hplace : next = here ++ [name] := follow_name (hnames name List.mem_cons_self) henter
    rw [henter]
    refine ih (fun n hn => hnames n (List.mem_cons_of_mem _ hn)) hrest ?_
    rwa [hplace, List.append_assoc]

section Below

variable (ht : t.Sound) (hroot : t.Leads p.front here)
  (hnames : ∀ name ∈ names, Path.IsEntryName name) {last : String} (hlast : Path.IsEntryName last)

include ht hroot hnames hlast

theorem Sound.locate_of_extends (h : t.Extends t')
    (hlocate : t'.locate (p.join (names ++ [last])) = .ok place)
    (hthere : (t.entry? place).isSome) : t.locate (p.join (names ++ [last])) = .ok place := by
  have hplace : place = here ++ (names ++ [last]) := by
    obtain ⟨here', hhere', hplace⟩ := exists_of_locate_join hnames hlast hlocate
    rw [hplace, hhere'.eq (h.leads hroot), List.append_assoc]
  rw [Path.join_eq, ← List.append_assoc, locate] at hlocate
  rw [Path.join_eq, ← List.append_assoc, locate]
  obtain ⟨begin', horigin, hfollow⟩ := exists_of_bind_eq_ok hlocate
  have hbegin : begin' = t'.start p.front := by
    have hne : last ≠ "" := by
      rintro rfl
      cases hlast.1
    rw [origin_eq_start hne horigin, start_append _ hnames]
  rw [← h.origin, horigin]
  show (p.front ++ names ++ [last]).foldlM t.enter begin' = _
  rw [List.append_assoc, List.foldlM_append] at hfollow ⊢
  -- In both trees the front leads to the directory, and names go on from there.
  obtain ⟨mid, hmid, hrest⟩ := exists_of_bind_eq_ok hfollow
  rw [hbegin] at hmid ⊢
  obtain rfl : mid = here := Leads.eq hmid (h.leads hroot)
  have hstart : t'.start p.front = t.start p.front := by rw [start, start, h.current]
  rw [hstart, show p.front.foldlM t.enter (t.start p.front) = .ok mid from hroot]
  refine ht.follow_of_extends (fun name hname => ?_) hrest (hplace ▸ hthere)
  rcases List.mem_append.mp hname with hname | hname
  · exact hnames name hname
  · rw [List.mem_singleton.mp hname]
    exact hlast

/-- A file below a directory that can be read after some writes, none of which was to it, could be
read before and held the same. -/
theorem Sound.read_of_written {ws : List (Path × String)} (h : t.Written ws t')
    {content : ByteArray} (hread : t'.read (p.join (names ++ [last])) = .ok content)
    (hout : ∀ w ∈ ws, t'.locate w.1 ≠ t'.locate (p.join (names ++ [last]))) :
    t.read (p.join (names ++ [last])) = .ok content := by
  obtain ⟨place, hlocate, hfile⟩ := read_eq_ok_iff.mp hread
  have hold : t.entry? place = some (.file content) := by
    rcases h.file_cases hfile with hold | ⟨w, hw, hplace, -⟩
    · exact hold
    · exact absurd (hplace.trans hlocate.symm) (hout w hw)
  have hthere : (t.entry? place).isSome := by rw [hold]; rfl
  exact read_eq_ok_iff.mpr
    ⟨place, ht.locate_of_extends hroot hnames hlast h.extension hlocate hthere, hold⟩

end Below

end CustomProps.FileTree
