import CustomProps.Proofs.Files.Written
/-!
# Paths below a directory

A path that goes on from a directory by the names of entries leads to the place of these names below
the place of the directory, whatever the spelling of the path. So does the path beside it, which
spells the directory anew, with another last name.
-/
namespace CustomProps

namespace Path

/-- The name can be that of an entry: it neither stays where it is nor leads upwards. -/
def IsEntryName (name : String) : Prop := isBlank name = false ∧ name ≠ ".."

instance (name : String) : Decidable (IsEntryName name) := inferInstanceAs (Decidable (_ ∧ _))

/-- The pieces after which a path goes on. -/
def front (p : Path) : List String :=
  if p.pieces.getLast? = some "" then p.pieces.dropLast else p.pieces

theorem join_eq (p : Path) (pieces : List String) : p.join pieces = ⟨p.front ++ pieces⟩ := by
  rw [join, front]
  split
  · rfl
  · rfl

/-! ### Siblings -/

theorem trim_append_singleton (pieces : List String) {last : String} (h : isBlank last = false) :
    trim (pieces ++ [last]) = pieces ++ [last] := by
  induction pieces with
  | nil => simp [trim, h]
  | cons piece rest ih =>
    rw [List.cons_append, trim, ih]
    cases rest with
    | nil => rfl
    | cons next rest => rfl

theorem isBlank_of_getLast?_trim {pieces : List String} {last : String}
    (h : (trim pieces).getLast? = some last) : isBlank last = false := by
  induction pieces with
  | nil => cases h
  | cons piece rest ih =>
    rw [trim] at h
    cases hkept : trim rest with
    | nil =>
      rw [hkept] at h
      cases hblank : isBlank piece with
      | true => simp [hblank] at h
      | false =>
        simp only [hblank, Bool.false_eq_true, if_false, List.getLast?_singleton,
          Option.some.injEq] at h
        rw [← h, hblank]
    | cons next kept =>
      rw [hkept] at h ih
      exact ih (by simpa [List.getLast?_cons_cons] using h)

/-- The pieces of a directory as a sibling of something in it spells them. -/
def respelled : List String → List String
  | "" :: rest => "" :: trim rest
  | "." :: rest => "." :: trim rest
  | pieces => trim pieces

theorem head?_trim {pieces : List String} {first : String}
    (h : (trim pieces).head? = some first) : pieces.head? = some first := by
  cases pieces with
  | nil => cases h
  | cons piece rest =>
    rw [trim] at h
    split at h
    · split at h
      · cases h
      · exact h
    · exact h

theorem head?_respelled (pieces : List String) :
    (respelled pieces).head? = some "" ↔ pieces.head? = some "" := by
  unfold respelled
  split
  · simp
  · simp
  · rename_i hroot _
    have hhead : pieces.head? ≠ some "" := by
      intro h
      obtain ⟨rest, hrest⟩ := List.head?_eq_some_iff.mp h
      exact hroot rest hrest
    exact iff_of_false (fun h => hhead (head?_trim h)) hhead

theorem front_ofLead {lead : Option String} (hlead : lead = none ∨ lead = some "" ∨ lead = some ".")
    (pieces : List String) :
    (ofLead lead (trim pieces)).front = lead.toList ++ trim pieces := by
  cases hkept : trim pieces with
  | nil =>
    rcases hlead with rfl | rfl | rfl
    · rfl
    · rfl
    · rfl
  | cons next kept =>
    have hlast : (next :: kept).getLast? ≠ some "" := by
      intro hempty
      rw [← hkept] at hempty
      cases isBlank_of_getLast?_trim hempty
    rcases hlead with rfl | rfl | rfl
    · exact if_neg hlast
    · exact if_neg (show ("" :: next :: kept).getLast? ≠ some "" by rwa [List.getLast?_cons_cons])
    · exact if_neg (show ("." :: next :: kept).getLast? ≠ some "" by rwa [List.getLast?_cons_cons])

theorem splitLead_append (pieces : List String) {last : String} (h : isBlank last = false) :
    ∃ lead rest, splitLead ⟨pieces ++ [last]⟩ = (lead, rest ++ [last]) ∧
      respelled pieces = lead.toList ++ trim rest ∧
      (lead = none ∨ lead = some "" ∨ lead = some ".") := by
  cases pieces with
  | nil =>
    refine ⟨none, [], ?_, rfl, Or.inl rfl⟩
    rw [splitLead]
    split
    · rename_i heq
      cases heq
    · rename_i heq
      cases heq
      cases h
    · rfl
  | cons piece rest =>
    by_cases hroot : piece = ""
    · subst hroot
      refine ⟨some "", rest, ?_, rfl, Or.inr (Or.inl rfl)⟩
      cases rest with
      | nil => rfl
      | cons next rest => rfl
    · by_cases hdot : piece = "."
      · subst hdot
        exact ⟨some ".", rest, rfl, rfl, Or.inr (Or.inr rfl)⟩
      · refine ⟨none, piece :: rest, ?_, ?_, Or.inl rfl⟩
        · simp [splitLead, hroot, hdot]
        · simp [respelled, hroot, hdot]

/-- The path beside one that goes on by names spells the directory anew and has another last name. -/
theorem sibling_join (p : Path) (names : List String) {last : String} (h : IsEntryName last)
    (ending : String) : (p.join (names ++ [last])).sibling ending =
      ⟨respelled (p.front ++ names) ++ [stem last ++ "." ++ ending]⟩ := by
  obtain ⟨lead, rest, hsplit, hrespelled, hlead⟩ := splitLead_append (p.front ++ names) h.1
  have htrim : trim (rest ++ [last]) = rest ++ [last] := trim_append_singleton rest h.1
  rw [join_eq, ← List.append_assoc]
  generalize (⟨p.front ++ names ++ [last]⟩ : Path) = q at hsplit
  have hname : q.name? = some last := by
    rw [name?, hsplit, htrim, List.getLast?_append_of_ne_nil _ (List.cons_ne_nil _ _)]
    simp [h.2]
  have hparent : q.parent? = some (ofLead lead (trim rest)) := by
    rw [parent?, hsplit]
    dsimp only
    rw [htrim]
    split
    · rename_i hnil
      cases rest <;> cases hnil
    · rw [List.dropLast_concat]
  rw [sibling, withName, hname, hparent]
  dsimp only
  rw [join_eq, front_ofLead hlead, hrespelled]
  rfl

theorem isEntryName_withEnding (base : String) {ending : String} (h : 2 ≤ ending.length) :
    IsEntryName (base ++ "." ++ ending) := by
  have hlength : 3 ≤ (base ++ "." ++ ending).length := by
    rw [String.length_append, String.length_append]
    have : ".".length = 1 := rfl
    omega
  generalize base ++ "." ++ ending = name at hlength
  constructor
  · rw [isBlank, Bool.or_eq_false_iff]
    constructor
    · refine beq_false_of_ne ?_
      rintro rfl
      exact absurd hlength (by decide)
    · refine beq_false_of_ne ?_
      rintro rfl
      exact absurd hlength (by decide)
  · rintro rfl
    exact absurd hlength (by decide)

end Path

namespace FileTree

variable {t : FileTree} {here place : Place} {p : Path} {names : List String} {last : String}

/-! ### Following -/

theorem follow_name {name : String} (hname : Path.IsEntryName name)
    (h : t.enter here name = .ok place) : place = here ++ [name] := by
  obtain ⟨-, hchild⟩ := enter_eq_ok_iff.mp h
  rw [if_neg (by simp [hname.1]), if_neg (by simp [hname.2]), child] at hchild
  split at hchild
  · cases hchild
  · exact (Except.ok.inj hchild).symm

theorem follow_names (hnames : ∀ name ∈ names, Path.IsEntryName name)
    (h : names.foldlM t.enter here = .ok place) : place = here ++ names := by
  induction names generalizing here with
  | nil =>
    cases h
    exact (List.append_nil _).symm
  | cons name rest ih =>
    rw [List.foldlM_cons] at h
    obtain ⟨next, hnext, hrest⟩ := exists_of_bind_eq_ok h
    rw [ih (fun n hn => hnames n (List.mem_cons_of_mem _ hn)) hrest,
      follow_name (hnames name List.mem_cons_self) hnext, List.append_assoc]
    rfl

theorem enter_blank {piece : String} (hblank : Path.isBlank piece = true)
    (h : t.entry? here = some .directory) : t.enter here piece = .ok here := by
  rw [enter_eq_ok_iff]
  exact ⟨h, if_pos hblank⟩

/-- Pieces that name nothing can be followed at the end wherever there is a directory. -/
theorem follow_of_trim {pieces : List String}
    (h : (Path.trim pieces).foldlM t.enter here = .ok place)
    (hplace : t.entry? place = some .directory) : pieces.foldlM t.enter here = .ok place := by
  induction pieces generalizing here with
  | nil => exact h
  | cons piece rest ih =>
    rw [Path.trim] at h
    rw [List.foldlM_cons]
    cases hkept : Path.trim rest with
    | nil =>
      rw [hkept] at h ih
      cases hblank : Path.isBlank piece with
      | true =>
        rw [hblank] at h
        cases h
        rw [enter_blank hblank hplace]
        exact ih rfl
      | false =>
        simp only [hblank, Bool.false_eq_true, if_false, List.foldlM_cons] at h
        obtain ⟨next, hnext, hdone⟩ := exists_of_bind_eq_ok h
        rw [hnext]
        exact ih hdone
    | cons next kept =>
      rw [hkept] at h ih
      simp only [List.foldlM_cons] at h
      obtain ⟨next, hnext, hrest⟩ := exists_of_bind_eq_ok h
      rw [hnext]
      exact ih (by rwa [List.foldlM_cons])

theorem follow_of_respelled {pieces : List String}
    (h : (Path.respelled pieces).foldlM t.enter here = .ok place)
    (hplace : t.entry? place = some .directory) : pieces.foldlM t.enter here = .ok place := by
  unfold Path.respelled at h
  split at h
  · rw [List.foldlM_cons] at h ⊢
    obtain ⟨next, hnext, hrest⟩ := exists_of_bind_eq_ok h
    rw [hnext]
    exact follow_of_trim hrest hplace
  · rw [List.foldlM_cons] at h ⊢
    obtain ⟨next, hnext, hrest⟩ := exists_of_bind_eq_ok h
    rw [hnext]
    exact follow_of_trim hrest hplace
  · exact follow_of_trim h hplace

/-! ### Locating -/

/-- Where pieces are followed from that begin a path with more pieces. -/
def start (t : FileTree) (pieces : List String) : Place :=
  if pieces.head? = some "" then [] else t.current

/-- The pieces, as the beginning of a path with more pieces, lead to the place. -/
def Leads (t : FileTree) (pieces : List String) (here : Place) : Prop :=
  pieces.foldlM t.enter (t.start pieces) = .ok here

theorem Leads.eq {pieces : List String} {here' : Place} (h : t.Leads pieces here)
    (h' : t.Leads pieces here') : here = here' :=
  Except.ok.inj (Eq.trans (Eq.symm h) h')

theorem start_append (pieces : List String) (hnames : ∀ name ∈ names, Path.IsEntryName name) :
    t.start (pieces ++ names) = t.start pieces := by
  cases pieces with
  | nil =>
    cases names with
    | nil => rfl
    | cons name rest =>
      have hname : name ≠ "" := by
        rintro rfl
        cases (hnames "" List.mem_cons_self).1
      rw [start, start, if_neg (by simp [hname]), if_neg (by simp)]
  | cons piece rest => rfl

theorem origin_eq_start {pieces : List String} (hlast : last ≠ "")
    (h : t.origin ⟨pieces ++ [last]⟩ = .ok here) : here = t.start pieces := by
  rw [origin] at h
  split at h
  · cases h
  · split at h
    · cases h
    · cases pieces with
      | nil =>
        have hempty : Path.isEmpty ⟨[last]⟩ = false := by simp [Path.isEmpty, hlast]
        rw [List.nil_append] at h
        rw [hempty] at h
        split at h
        · rename_i heq
          cases heq
        · exact (Except.ok.inj h).symm
      | cons piece rest =>
        by_cases hroot : piece = ""
        · subst hroot
          cases rest with
          | nil => exact (Except.ok.inj h).symm
          | cons next rest => exact (Except.ok.inj h).symm
        · have hempty : Path.isEmpty ⟨piece :: rest ++ [last]⟩ = false := by
            simp [Path.isEmpty, hroot]
          rw [start, if_neg (by simpa using hroot)]
          split at h
          · rename_i heq
            exact absurd (List.cons.inj heq).1 hroot
          · rw [hempty] at h
            exact (Except.ok.inj h).symm

theorem exists_of_locate {pieces : List String} (hlast : Path.IsEntryName last)
    (h : t.locate ⟨pieces ++ [last]⟩ = .ok place) :
    ∃ above, t.Leads pieces above ∧ t.entry? above = some .directory ∧ place = above ++ [last] := by
  rw [locate] at h
  obtain ⟨here, horigin, hfollow⟩ := exists_of_bind_eq_ok h
  have hne : last ≠ "" := by
    rintro rfl
    cases hlast.1
  rw [origin_eq_start hne horigin, List.foldlM_append] at hfollow
  obtain ⟨above, habove, hname⟩ := exists_of_bind_eq_ok hfollow
  rw [List.foldlM_cons] at hname
  obtain ⟨next, hnext, hdone⟩ := exists_of_bind_eq_ok hname
  cases hdone
  exact ⟨above, habove, (enter_eq_ok_iff.mp hnext).1, follow_name hlast hnext⟩

theorem Leads.exists_of_append {pieces : List String} {above : Place}
    (h : t.Leads (pieces ++ names) above) (hnames : ∀ name ∈ names, Path.IsEntryName name) :
    ∃ here, t.Leads pieces here ∧ above = here ++ names := by
  rw [Leads, start_append pieces hnames, List.foldlM_append] at h
  obtain ⟨here, hhere, hrest⟩ := exists_of_bind_eq_ok h
  exact ⟨here, hhere, follow_names hnames hrest⟩

theorem exists_of_locate_join (hnames : ∀ name ∈ names, Path.IsEntryName name)
    (hlast : Path.IsEntryName last) (h : t.locate (p.join (names ++ [last])) = .ok place) :
    ∃ here, t.Leads p.front here ∧ place = here ++ names ++ [last] := by
  rw [Path.join_eq, ← List.append_assoc] at h
  obtain ⟨above, habove, -, rfl⟩ := exists_of_locate hlast h
  obtain ⟨here, hhere, rfl⟩ := habove.exists_of_append hnames
  exact ⟨here, hhere, rfl⟩

theorem exists_of_locate_sibling (hnames : ∀ name ∈ names, Path.IsEntryName name)
    (hlast : Path.IsEntryName last) {ending : String} (hending : 2 ≤ ending.length)
    (h : t.locate ((p.join (names ++ [last])).sibling ending) = .ok place) :
    ∃ here, t.Leads p.front here ∧
      place = here ++ names ++ [Path.stem last ++ "." ++ ending] := by
  rw [Path.sibling_join p names hlast] at h
  obtain ⟨above, habove, hdirectory, rfl⟩ :=
    exists_of_locate (Path.isEntryName_withEnding _ hending) h
  have hstart : t.start (Path.respelled (p.front ++ names)) = t.start (p.front ++ names) := by
    rw [start, start]
    simp only [Path.head?_respelled]
  rw [Leads, hstart] at habove
  have hleads : t.Leads (p.front ++ names) above := follow_of_respelled habove hdirectory
  obtain ⟨here, hhere, rfl⟩ := hleads.exists_of_append hnames
  exact ⟨here, hhere, rfl⟩

end FileTree
end CustomProps
