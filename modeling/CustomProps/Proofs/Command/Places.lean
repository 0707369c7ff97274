import CustomProps.Proofs.Command.Renamed
import CustomProps.Proofs.Files.Sound
/-!
# Where results go

Renaming the files below a directory writes each result to a place of its own, as the last names at
these places tell: those of maps and of stylesheets beside their files have endings that no stylesheet
file has. Only `.json` and `.json.json` of one directory are one name up to the last dot.
-/
namespace CustomProps.Command

/-! ### Names of stylesheet files -/

theorem endsWith_append (base ending : String) : (base ++ ending).endsWith ending = true := by
  show (base ++ ending).toSlice.endsWith ending = true
  rw [String.Slice.endsWith_string_iff]
  simp

theorem suffix_of_endsWith {name ending ending' : String} (h : name.endsWith ending = true)
    (h' : name.endsWith ending' = true) (hle : ending.toList.length ≤ ending'.toList.length) :
    ending.toList <:+ ending'.toList := by
  have h : name.toSlice.endsWith ending = true := h
  have h' : name.toSlice.endsWith ending' = true := h'
  rw [String.Slice.endsWith_string_iff] at h h'
  exact List.suffix_of_suffix_length_le h h' hle

theorem exists_base {name ending : String} (h : name.endsWith ending = true) :
    ∃ base, name = base ++ ending := by
  have h : name.toSlice.endsWith ending = true := h
  rw [String.Slice.endsWith_string_iff] at h
  obtain ⟨base, hbase⟩ := h
  refine ⟨String.ofList base, String.toList_inj.mp ?_⟩
  rw [String.toList_append, String.toList_ofList, hbase]
  simp

theorem exists_base_of_isStylesheetName {name : String} (h : isStylesheetName name = true) :
    ∃ base, name = base ++ "." ++ "json" := by
  rw [isStylesheetName, Bool.and_eq_true, Bool.and_eq_true] at h
  obtain ⟨base, rfl⟩ := exists_base h.1.1
  refine ⟨base, ?_⟩
  rw [String.append_assoc]
  rfl

theorem isEntryName_of_isStylesheetName {name : String} (h : isStylesheetName name = true) :
    Path.IsEntryName name := by
  obtain ⟨base, rfl⟩ := exists_base_of_isStylesheetName h
  exact Path.isEntryName_withEnding base (by decide)

theorem stem_append (base : String) {ending : String} (hdot : '.' ∉ ending.toList) :
    Path.stem (base ++ "." ++ ending) =
      if base = "" then base ++ "." ++ ending else base := by
  have hdrop : (base ++ "." ++ ending).toList.reverse.dropWhile (· != '.') =
      '.' :: base.toList.reverse := by
    rw [String.toList_append, String.toList_append, List.reverse_append, List.reverse_append,
      List.dropWhile_append_of_pos]
    · rfl
    · intro c hc
      rw [bne_iff_ne]
      rintro rfl
      exact hdot (List.mem_reverse.mp hc)
  rw [Path.stem, hdrop]
  cases hbase : base.toList.reverse with
  | nil =>
    have hempty : base = "" := by
      rw [← String.toList_inj, List.reverse_eq_nil_iff.mp hbase]
      rfl
    rw [if_pos hempty]
    rfl
  | cons c cs =>
    have hempty : base ≠ "" := by
      rintro rfl
      cases hbase
    rw [if_neg hempty]
    show String.ofList (c :: cs).reverse = base
    rw [← hbase, List.reverse_reverse, String.ofList_toList]

/-- One of the names is `.json` and the other `.json.json`, which are the same up to the last dot. -/
def AreTwins (name name' : String) : Prop :=
  (name = ".json" ∧ name' = ".json.json") ∨ (name = ".json.json" ∧ name' = ".json")

theorem stem_eq_iff {name name' : String} (h : isStylesheetName name = true)
    (h' : isStylesheetName name' = true) :
    Path.stem name = Path.stem name' ↔ name = name' ∨ AreTwins name name' := by
  have hjson {name : String} (h : isStylesheetName name = true) :
      ∃ base, name = base ++ "." ++ "json" ∧
        Path.stem name = if base = "" then ".json" else base := by
    obtain ⟨base, rfl⟩ := exists_base_of_isStylesheetName h
    refine ⟨base, rfl, ?_⟩
    rw [stem_append base (by decide)]
    split
    · rename_i hempty
      rw [hempty]
      rfl
    · rfl
  constructor
  · intro hstem
    obtain ⟨base, rfl, hs⟩ := hjson h
    obtain ⟨base', rfl, hs'⟩ := hjson h'
    rw [hs, hs'] at hstem
    by_cases hbase : base = ""
    · by_cases hbase' : base' = ""
      · rw [hbase, hbase']
        exact Or.inl rfl
      · rw [if_pos hbase, if_neg hbase'] at hstem
        rw [hbase, ← hstem]
        exact Or.inr (Or.inl ⟨rfl, rfl⟩)
    · by_cases hbase' : base' = ""
      · rw [if_neg hbase, if_pos hbase'] at hstem
        rw [hbase', hstem]
        exact Or.inr (Or.inr ⟨rfl, rfl⟩)
      · rw [if_neg hbase, if_neg hbase'] at hstem
        exact Or.inl (by rw [hstem])
  · rintro (rfl | ⟨rfl, rfl⟩ | ⟨rfl, rfl⟩)
    · rfl
    · decide
    · decide

/-! ### Names of results -/

theorem endsWith_stem (name ending : String) :
    (Path.stem name ++ "." ++ ending).endsWith ("." ++ ending) = true := by
  rw [String.append_assoc]
  exact endsWith_append _ _

theorem not_endsWith_of_isStylesheetName {name : String} (h : isStylesheetName name = true) :
    name.endsWith ("." ++ renamedEnding) = false ∧ name.endsWith ("." ++ mapEnding) = false := by
  rw [isStylesheetName, Bool.and_eq_true, Bool.and_eq_true] at h
  exact ⟨by simpa using h.1.2, by simpa using h.2⟩

/-- The name ends as those of results beside their files and of maps do. -/
def isResultName (name : String) : Bool :=
  name.endsWith ("." ++ renamedEnding) || name.endsWith ("." ++ mapEnding)

/-- What stands at the place has the name of a result. -/
def IsResultPlace (place : Place) : Prop := place.getLast?.any isResultName = true

theorem isResultName_of_isStylesheetName {name : String} (h : isStylesheetName name = true) :
    isResultName name = false := by
  obtain ⟨hrenamed, hmap⟩ := not_endsWith_of_isStylesheetName h
  rw [isResultName, hrenamed, hmap]
  rfl

theorem isResultName_stem (name : String) {ending : String}
    (hending : ending = renamedEnding ∨ ending = mapEnding) :
    isResultName (Path.stem name ++ "." ++ ending) = true := by
  rw [isResultName, Bool.or_eq_true]
  rcases hending with rfl | rfl
  · exact Or.inl (endsWith_stem name renamedEnding)
  · exact Or.inr (endsWith_stem name mapEnding)

/-- The names lead to a stylesheet file, as far as the last of them tells. -/
def AreStylesheetNames (names : List String) : Prop :=
  ∃ above last, names = above ++ [last] ∧ isStylesheetName last = true

theorem areStylesheetNames_of_mem {files : List (List String)} {names : List String}
    (h : names ∈ stylesheetsAmong files) : AreStylesheetNames names := by
  rw [stylesheetsAmong, List.mem_mergeSort, List.mem_filter] at h
  cases names using List.reverseRecOn with
  | nil => cases h.2
  | append_singleton above last => exact ⟨above, last, rfl, by simpa using h.2⟩

namespace AreStylesheetNames

variable {names : List String} {t : FileTree} {p : Path} {place : Place}

theorem not_isResultPlace (h : AreStylesheetNames names)
    (hl : t.locate (p.join names) = .ok place) : ¬IsResultPlace place := by
  obtain ⟨above, last, rfl, hlast⟩ := h
  rw [Path.join_eq, ← List.append_assoc] at hl
  obtain ⟨here, -, -, rfl⟩ :=
    FileTree.exists_of_locate (isEntryName_of_isStylesheetName hlast) hl
  simp [IsResultPlace, isResultName_of_isStylesheetName hlast]

theorem isResultPlace_sibling (h : AreStylesheetNames names) {ending : String}
    (hending : ending = renamedEnding ∨ ending = mapEnding)
    (hl : t.locate ((p.join names).sibling ending) = .ok place) : IsResultPlace place := by
  obtain ⟨above, last, rfl, hlast⟩ := h
  rw [Path.sibling_join p above (isEntryName_of_isStylesheetName hlast)] at hl
  have hlength : 2 ≤ ending.length := by
    rcases hending with rfl | rfl
    · decide
    · decide
  obtain ⟨here, -, -, rfl⟩ :=
    FileTree.exists_of_locate (Path.isEntryName_withEnding (Path.stem last) hlength) hl
  simp [IsResultPlace, isResultName_stem last hending]

end AreStylesheetNames

/-! ### Places -/

/-- The names lead from a directory to an entry with the name of a stylesheet file. -/
structure LeadTo (above : List String) (last : String) : Prop where
  directories : ∀ name ∈ above, Path.IsEntryName name
  file : Path.IsEntryName last
  stylesheet : isStylesheetName last = true

theorem exists_leadTo {t : FileTree} (ht : t.Sound) (p : Path) (names : List String)
    (h : names ∈ stylesheetsAmong (t.filesBelow p)) :
    ∃ above last, names = above ++ [last] ∧ LeadTo above last := by
  obtain ⟨above, last, rfl, hlast⟩ := areStylesheetNames_of_mem h
  rw [stylesheetsAmong, List.mem_mergeSort, List.mem_filter] at h
  have hentry := ht.isEntryName h.1
  refine ⟨above, last, rfl, ?_, isEntryName_of_isStylesheetName hlast, hlast⟩
  exact fun name hname => hentry name (List.mem_append_left _ hname)

theorem LeadTo.areStylesheetNames {above : List String} {last : String} (h : LeadTo above last) :
    AreStylesheetNames (above ++ [last]) := ⟨above, last, rfl, h.stylesheet⟩

section

variable {t : FileTree} {k : Task} {above above' : List String} {last last' : String} {p : Path}
  {place : Place}

theorem exists_of_locate_outputBelow (h : LeadTo above last)
    (hl : t.locate (k.outputBelow (above ++ [last])) = .ok place) :
    (k.output = none ∧ ∃ here, t.Leads k.input.front here ∧
        place = here ++ above ++ [Path.stem last ++ "." ++ renamedEnding]) ∨
      ∃ directory here, k.output = some directory ∧ t.Leads directory.front here ∧
        place = here ++ above ++ [last] := by
  rw [Task.outputBelow] at hl
  cases houtput : k.output with
  | none =>
    rw [houtput] at hl
    exact Or.inl ⟨rfl, FileTree.exists_of_locate_sibling h.directories h.file (by decide) hl⟩
  | some directory =>
    rw [houtput] at hl
    obtain ⟨here, hhere, hplace⟩ := FileTree.exists_of_locate_join h.directories h.file hl
    exact Or.inr ⟨directory, here, rfl, hhere, hplace⟩

theorem exists_of_locate_mapBelow (h : LeadTo above last)
    (hp : k.mapBelow (above ++ [last]) = some p) (hl : t.locate p = .ok place) :
    ∃ directory here, k.map = some directory ∧ t.Leads directory.front here ∧
      place = here ++ above ++ [Path.stem last ++ "." ++ mapEnding] := by
  rw [Task.mapBelow] at hp
  obtain ⟨directory, hdirectory, rfl⟩ := Option.map_eq_some_iff.mp hp
  obtain ⟨here, hhere, hplace⟩ :=
    FileTree.exists_of_locate_sibling h.directories h.file (by decide) hl
  exact ⟨directory, here, hdirectory, hhere, hplace⟩

/-! ### Different kinds of files -/

theorem locate_input_ne_map (h : LeadTo above last) (h' : LeadTo above' last')
    (hp : k.mapBelow (above' ++ [last']) = some p) (hl : t.locate p = .ok place) :
    t.locate (k.input.join (above ++ [last])) ≠ .ok place := by
  intro hinput
  obtain ⟨directory, -, rfl⟩ := Option.map_eq_some_iff.mp hp
  exact h.areStylesheetNames.not_isResultPlace hinput
    (h'.areStylesheetNames.isResultPlace_sibling (Or.inr rfl) hl)

theorem locate_input_ne_sibling (h : LeadTo above last) (h' : LeadTo above' last')
    (hnone : k.output = none) (hl : t.locate (k.outputBelow (above' ++ [last'])) = .ok place) :
    t.locate (k.input.join (above ++ [last])) ≠ .ok place := by
  intro hinput
  rw [Task.outputBelow, hnone] at hl
  exact h.areStylesheetNames.not_isResultPlace hinput
    (h'.areStylesheetNames.isResultPlace_sibling (Or.inl rfl) hl)

theorem locate_output_ne_map (h : LeadTo above last) (h' : LeadTo above' last')
    (hp : k.mapBelow (above' ++ [last']) = some p) (hl : t.locate p = .ok place) :
    t.locate (k.outputBelow (above ++ [last])) ≠ .ok place := by
  intro houtput
  obtain ⟨directory, here', -, -, rfl⟩ := exists_of_locate_mapBelow h' hp hl
  have hmap := endsWith_stem last' mapEnding
  rcases exists_of_locate_outputBelow h houtput with ⟨-, here, -, hplace⟩ | ⟨_, here, -, -, hplace⟩
  · have hlast := (List.append_inj' hplace rfl).2
    rw [(List.cons.inj hlast).1] at hmap
    exact absurd (suffix_of_endsWith hmap (endsWith_stem last renamedEnding) (by decide))
      (by decide)
  · have hlast := (List.append_inj' hplace rfl).2
    rw [(List.cons.inj hlast).1, (not_endsWith_of_isStylesheetName h.stylesheet).2] at hmap
    cases hmap

/-! ### Files of one kind -/

theorem eq_of_append_ending {base base' ending : String}
    (h : base ++ "." ++ ending = base' ++ "." ++ ending) : base = base' := by
  rw [String.append_assoc, String.append_assoc] at h
  have hlist := congrArg String.toList h
  simp only [String.toList_append] at hlist
  exact String.toList_inj.mp (List.append_cancel_right hlist)

theorem eq_of_place_eq {here : Place} {name name' : String}
    (h : here ++ above ++ [name] = here ++ above' ++ [name']) : above = above' ∧ name = name' := by
  obtain ⟨habove, hname⟩ := List.append_inj' h rfl
  exact ⟨List.append_cancel_left habove, (List.cons.inj hname).1⟩

theorem eq_of_locate_outputBelow (h : LeadTo above last) (h' : LeadTo above' last')
    (hl : t.locate (k.outputBelow (above ++ [last])) = .ok place)
    (hl' : t.locate (k.outputBelow (above' ++ [last'])) = .ok place) :
    above = above' ∧ (last = last' ∨ k.output = none ∧ AreTwins last last') := by
  rcases exists_of_locate_outputBelow h hl with
    ⟨hnone, here, hhere, rfl⟩ | ⟨directory, here, hsome, hhere, rfl⟩
  · rcases exists_of_locate_outputBelow h' hl' with
      ⟨-, here', hhere', hplace⟩ | ⟨directory, here', hsome, -, -⟩
    · rw [hhere'.eq hhere] at hplace
      obtain ⟨habove, hname⟩ := eq_of_place_eq hplace
      refine ⟨habove, ?_⟩
      have hstem := (stem_eq_iff h.stylesheet h'.stylesheet).mp (eq_of_append_ending hname)
      exact hstem.imp_right fun htwins => ⟨hnone, htwins⟩
    · rw [hnone] at hsome
      cases hsome
  · rcases exists_of_locate_outputBelow h' hl' with
      ⟨hnone, -⟩ | ⟨directory', here', hsome', hhere', hplace⟩
    · rw [hnone] at hsome
      cases hsome
    · rw [hsome] at hsome'
      cases hsome'
      rw [hhere'.eq hhere] at hplace
      obtain ⟨habove, hname⟩ := eq_of_place_eq hplace
      exact ⟨habove, Or.inl hname⟩

theorem eq_of_locate_mapBelow (h : LeadTo above last) (h' : LeadTo above' last') {p' : Path}
    (hp : k.mapBelow (above ++ [last]) = some p) (hp' : k.mapBelow (above' ++ [last']) = some p')
    (hl : t.locate p = .ok place) (hl' : t.locate p' = .ok place) :
    above = above' ∧ (last = last' ∨ AreTwins last last') := by
  obtain ⟨directory, here, hsome, hhere, rfl⟩ := exists_of_locate_mapBelow h hp hl
  obtain ⟨directory', here', hsome', hhere', hplace⟩ := exists_of_locate_mapBelow h' hp' hl'
  rw [hsome] at hsome'
  cases hsome'
  rw [hhere'.eq hhere] at hplace
  obtain ⟨habove, hname⟩ := eq_of_place_eq hplace
  exact ⟨habove, (stem_eq_iff h.stylesheet h'.stylesheet).mp (eq_of_append_ending hname)⟩

/-! ### Paths that are the same -/

theorem sibling_join_eq (h : LeadTo above last) (h' : LeadTo above last') (p : Path)
    (ending : String) (hsame : last = last' ∨ AreTwins last last') :
    (p.join (above ++ [last])).sibling ending = (p.join (above ++ [last'])).sibling ending := by
  rw [Path.sibling_join p above h.file, Path.sibling_join p above h'.file,
    (stem_eq_iff h.stylesheet h'.stylesheet).mpr hsame]

theorem outputBelow_eq (h : LeadTo above last) (h' : LeadTo above last') (hnone : k.output = none)
    (hsame : last = last' ∨ AreTwins last last') :
    k.outputBelow (above ++ [last]) = k.outputBelow (above ++ [last']) := by
  rw [Task.outputBelow, Task.outputBelow, hnone]
  exact sibling_join_eq h h' k.input renamedEnding hsame

theorem mapBelow_eq (h : LeadTo above last) (h' : LeadTo above last')
    (hsame : last = last' ∨ AreTwins last last') :
    k.mapBelow (above ++ [last]) = k.mapBelow (above ++ [last']) :=
  congrArg k.map.map (funext fun directory => sibling_join_eq h h' directory mapEnding hsame)

/-- Of the paths that are written to, no two lead to one place. -/
theorem eq_of_locate_eq (h : LeadTo above last) (h' : LeadTo above' last') {q q' : Path}
    (hq : q ∈ k.pathsBelow (above ++ [last])) (hq' : q' ∈ k.pathsBelow (above' ++ [last']))
    (hl : t.locate q = .ok place) (hl' : t.locate q' = .ok place) : q = q' := by
  rw [Task.pathsBelow, List.mem_cons, Option.mem_toList] at hq hq'
  rcases hq with rfl | hq
  · rcases hq' with rfl | hq'
    · obtain ⟨rfl, rfl | ⟨hnone, htwins⟩⟩ := eq_of_locate_outputBelow h h' hl hl'
      · rfl
      · exact outputBelow_eq h h' hnone (Or.inr htwins)
    · exact absurd hl (locate_output_ne_map h h' hq' hl')
  · rcases hq' with rfl | hq'
    · exact absurd hl' (locate_output_ne_map h' h hq hl)
    · obtain ⟨rfl, hsame⟩ := eq_of_locate_mapBelow h h' hq hq' hl hl'
      rw [mapBelow_eq h h' hsame, hq'] at hq
      exact (Option.some.inj hq).symm

end

end CustomProps.Command
