import CustomProps.Proofs.Knowledge
import CustomProps.Proofs.Text.Weave
import CustomProps.Proofs.Value.Names
/-!
# A run against its reference

What a run makes of a stylesheet, said without a walk: every declaration by itself, its property
with the new name, and its value in one pass from left to right, the text between the names as it
was and the new names in their places.
-/
namespace CustomProps

/-! ### The reference -/

/-- The property with `f` of its name behind the marker. -/
def PropertyName.rename (f : String → String) (prop : String) : String :=
  match ofProp? prop with
  | some name => marker ++ f name
  | none => prop

/-- The edits that put `f` of every name of a value in the place of the name. -/
def Value.renames (f : String → String) (value : String) : List Edit :=
  (scan value).references.map fun r => ⟨r.name, f (r.nameIn value)⟩

/-- The value with `f` of every name; `none` if the names are not one behind the other. -/
def Value.rename? (f : String → String) (value : String) : Option String :=
  Edit.weave? value 0 (renames f value)

/-- The declaration with `f` of the names that it declares and refers to. -/
def Declaration.rename? (f : String → String) (d : Declaration) : Option Declaration :=
  (Value.rename? f d.value).map fun value => ⟨PropertyName.rename f d.prop, value⟩

/-! ### The reference is total -/

namespace Value

theorem map_name_references (s : Scan) : s.references.map Reference.name = s.calls.filterMap Call.name := by
  rw [Scan.references, List.map_filterMap]
  refine congrArg (fun name => s.calls.filterMap name) (funext fun c => ?_)
  obtain ⟨span, name, fallback⟩ := c
  cases name with
  | none => rfl
  | some r => rfl

theorem namesAt_of_layout {value : String} {t : Layout} (ht : t.Sound) (h : utf8 value = t.bytes) :
    NamesAt value 0 value.utf8ByteSize (t.names 0) :=
  Layout.namesAt ht (Nat.zero_le _) (Nat.le_refl _) ((between_all _).trans h)

theorem map_name_references_of_layout {value : String} {t : Layout} (ht : t.Sound)
    (h : utf8 value = t.bytes) :
    (scan value).references.map Reference.name = (t.names 0).map Prod.fst := by
  rw [map_name_references, scan_eq_of_layout ht h]
  exact t.filterMap_name_calls 0

theorem ascending_names (value : String) :
    Span.Ascending 0 value.utf8ByteSize ((scan value).references.map Reference.name) := by
  obtain ⟨t, ht, hbytes⟩ := Layout.exists_sound (utf8 value)
  rw [map_name_references_of_layout ht hbytes.symm]
  exact (namesAt_of_layout ht hbytes.symm).ascending

theorem within_name {value : String} {r : Reference} (hr : r ∈ (scan value).references) :
    r.name.Within value := by
  obtain ⟨t, ht, hbytes⟩ := Layout.exists_sound (utf8 value)
  have hname : r.name ∈ (t.names 0).map Prod.fst := by
    rw [← map_name_references_of_layout ht hbytes.symm]
    exact List.mem_map_of_mem hr
  obtain ⟨n, hn, hspan⟩ := List.mem_map.mp hname
  rw [← hspan]
  exact (namesAt_of_layout ht hbytes.symm).within n hn

theorem pairwise_renames (f : String → String) (value : String) :
    (renames f value).Pairwise Edit.Precedes := by
  have hrising := (ascending_names value).pairwise
  rw [List.pairwise_map] at hrising
  rw [renames, List.pairwise_map]
  exact hrising.imp fun ⟨hstart, hstop⟩ => ⟨hstart, hstop⟩

theorem exists_rename? (f : String → String) (value : String) :
    ∃ renamed, rename? f value = some renamed := by
  refine Edit.exists_weave? String.Pos.Raw.isValid_zero (fun e _ => Nat.zero_le e.span.start)
    (pairwise_renames f value) fun e he => ?_
  obtain ⟨r, hr, rfl⟩ := List.mem_map.mp he
  exact within_name hr

end Value

namespace PropertyName

theorem marker_append_of_ofProp? {prop name : String} (h : ofProp? prop = some name) :
    prop = marker ++ name := by
  unfold ofProp? at h
  split at h
  · rename_i c cs hl
    cases h
    refine String.toList_inj.mp ?_
    rw [hl, String.toList_append, String.toList_ofList]
    rfl
  · cases h

theorem rewriteProp_of_ofProp? {prop name : String} (h : ofProp? prop = some name)
    (renamed : String) : rewriteProp prop renamed = marker ++ renamed := by
  have hl : prop.toList = '-' :: '-' :: name.toList := by
    rw [marker_append_of_ofProp? h, String.toList_append]
    rfl
  simp only [rewriteProp, hl]

end PropertyName

/-! ### A walk follows the reference -/

namespace Walk

variable {o : Options} {w : Walk}

theorem meet_fst (h : w.resolver.Faithful o) (name : String) : (w.meet name).1 = o.resolve name :=
  h.resolve_fst name

theorem faithful_meet (h : w.resolver.Faithful o) (name : String) :
    (w.meet name).2.resolver.Faithful o :=
  h.resolve_snd name

theorem property_fst (h : w.resolver.Faithful o) (prop : String) :
    (w.property prop).1 = PropertyName.rename o.target prop := by
  unfold property PropertyName.rename
  split
  · rename_i hnone
    rw [hnone]
  · rename_i name hname
    rw [hname]
    dsimp only
    rw [meet_fst h, Options.changes_resolve]
    split
    · rw [PropertyName.rewriteProp_of_ofProp? hname, Options.renamed_resolve]
    · rename_i hsame
      have htarget : o.target name = name := by simpa using hsame
      rw [htarget]
      exact PropertyName.marker_append_of_ofProp? hname

theorem faithful_property (h : w.resolver.Faithful o) (prop : String) :
    (w.property prop).2.resolver.Faithful o := by
  show (w.property prop).2.knowledge.resolver.Faithful o
  rw [knowledge_property]
  exact Knowledge.faithful_meetAll h _

theorem edits_fst (h : w.resolver.Faithful o) (value : String) (rs : List Value.Reference) :
    (w.edits value rs).1 =
      (rs.map fun r => (⟨r.name, o.target (r.nameIn value)⟩ : Edit)).filter
        fun e => e.text != e.span.slice value := by
  induction rs generalizing w with
  | nil => rfl
  | cons r rs ih =>
    have hrest := ih (faithful_meet h (r.nameIn value))
    unfold edits
    dsimp only
    rw [meet_fst h, Options.changes_resolve, Options.renamed_resolve, List.map_cons]
    split
    · rename_i hchanges
      rw [List.filter_cons_of_pos (by exact hchanges), hrest]
    · rename_i hsame
      rw [List.filter_cons_of_neg (by exact hsame), hrest]

theorem value_fst (h : w.resolver.Faithful o) (value : String) :
    Value.rename? o.target value = some (w.value value).1 := by
  have hscanned : (w.scanned value).resolver.Faithful o := h
  obtain ⟨renamed, hrenamed⟩ := Value.exists_rename? o.target value
  have hedits : ((w.scanned value).edits value (Value.scan value).references).1 =
      (Value.renames o.target value).filter fun e => e.text != e.span.slice value :=
    edits_fst hscanned value _
  have hchanges : Edit.weave? value 0 ((Value.renames o.target value).filter
      fun e => e.text != e.span.slice value) = some renamed := by
    refine Edit.weave?_filter _ (fun e _ he => ?_) hrenamed
    have hsame : e.text = e.span.slice value := by simpa using he
    exact hsame.symm
  rw [value_eq, hrenamed, Option.some.injEq]
  dsimp only
  rw [hedits]
  split
  · rename_i hempty
    rw [List.isEmpty_iff.mp hempty] at hchanges
    exact Span.eq_of_slice?_all hchanges
  · rw [Edit.applyAll?_eq_weave? ?_ (List.Perm.refl _) hchanges, Option.getD_some]
    exact (Value.pairwise_renames o.target value).sublist List.filter_sublist

theorem declaration_spec (w : Walk) (d : Declaration) : ∃ w₁ : Walk, w₁.resolver = w.resolver ∧
    w.declaration d = (⟨(w₁.property d.prop).1, ((w₁.property d.prop).2.value d.value).1⟩,
      ((w₁.property d.prop).2.value d.value).2) :=
  ⟨{ w with stats := { w.stats with declarationsVisited := w.stats.declarationsVisited + 1 } },
    rfl, rfl⟩

theorem declaration_fst (h : w.resolver.Faithful o) (d : Declaration) :
    d.rename? o.target = some (w.declaration d).1 := by
  obtain ⟨w₁, hw₁, hstep⟩ := declaration_spec w d
  have h₁ : w₁.resolver.Faithful o := by
    rw [hw₁]
    exact h
  rw [hstep, Declaration.rename?, value_fst (faithful_property h₁ d.prop), property_fst h₁,
    Option.map_some]

theorem faithful_declaration (h : w.resolver.Faithful o) (d : Declaration) :
    (w.declaration d).2.resolver.Faithful o := by
  show (w.declaration d).2.knowledge.resolver.Faithful o
  rw [knowledge_declaration]
  exact Knowledge.faithful_meetAll h _

theorem declarations_spec (h : w.resolver.Faithful o) {f : Declaration → Declaration}
    (hf : ∀ d, d.rename? o.target = some (f d)) (ds : List Declaration) :
    (w.declarations ds).1 = ds.map f ∧ (w.declarations ds).2.resolver.Faithful o := by
  induction ds generalizing w with
  | nil => exact ⟨rfl, h⟩
  | cons d ds ih =>
    obtain ⟨hrest, hfaithful⟩ := ih (faithful_declaration h d)
    have hd : f d = (w.declaration d).1 := Option.some.inj ((hf d).symm.trans (declaration_fst h d))
    refine ⟨?_, hfaithful⟩
    show (w.declaration d).1 :: ((w.declaration d).2.declarations ds).1 = _
    rw [hrest, List.map_cons, hd]

theorem rules_spec (h : w.resolver.Faithful o) {f : Declaration → Declaration}
    (hf : ∀ d, d.rename? o.target = some (f d)) (rs : List Rule) :
    (w.rules rs).1 = rs.map (fun r => ⟨r.selector, r.declarations.map f⟩) ∧
      (w.rules rs).2.resolver.Faithful o := by
  induction rs generalizing w with
  | nil => exact ⟨rfl, h⟩
  | cons r rs ih =>
    let w₁ : Walk := { w with stats := { w.stats with rulesVisited := w.stats.rulesVisited + 1 } }
    have h₁ : w₁.resolver.Faithful o := h
    obtain ⟨hds, hdeclarations⟩ := declarations_spec h₁ hf r.declarations
    obtain ⟨hrest, hfaithful⟩ := ih hdeclarations
    refine ⟨?_, hfaithful⟩
    show ⟨r.selector, (w₁.declarations r.declarations).1⟩ ::
      ((w₁.declarations r.declarations).2.rules rs).1 = _
    rw [hrest, hds, List.map_cons]

end Walk

/-- The reference is a function of the declaration alone. -/
theorem Declaration.exists_rename (f : String → String) :
    ∃ r : Declaration → Declaration, ∀ d, d.rename? f = some (r d) := by
  have htotal : ∀ d : Declaration, ∃ d', d.rename? f = some d' := by
    intro d
    obtain ⟨value, hvalue⟩ := Value.exists_rename? f d.value
    exact ⟨_, by rw [Declaration.rename?, hvalue]; rfl⟩
  exact Classical.axiomOfChoice htotal

/-- The states of a walk under the options `o`, however rules and declarations are given to it. -/
inductive Walk.Reachable (o : Options) : Walk → Prop where
  | start : Reachable o (Walk.start o)
  | declaration {w : Walk} (h : Reachable o w) (d : Declaration) : Reachable o (w.declaration d).2
  | rules {w : Walk} (h : Reachable o w) (rs : List Rule) : Reachable o (w.rules rs).2

theorem Walk.Reachable.faithful {o : Options} {w : Walk} (h : Reachable o w) :
    w.resolver.Faithful o := by
  induction h with
  | start => exact Resolver.faithful_new o
  | declaration _ d ih => exact faithful_declaration ih d
  | rules _ rs ih =>
    obtain ⟨f, hf⟩ := Declaration.exists_rename o.target
    exact (rules_spec ih hf rs).2

theorem Options.rules_run_eq_map {o : Options} {f : Declaration → Declaration}
    (hf : ∀ d, d.rename? o.target = some (f d)) (rules : List Rule) :
    (o.run rules).rules = rules.map fun r => ⟨r.selector, r.declarations.map f⟩ :=
  (Walk.rules_spec (w := Walk.start o) (Resolver.faithful_new o) hf rules).1

/-- A run gives every declaration what the reference gives it, and changes nothing else. -/
theorem rules_run (o : Options) : ∃ f : Declaration → Declaration,
    (∀ d, d.rename? o.target = some (f d)) ∧ ∀ rules : List Rule,
      (o.run rules).rules = rules.map fun r => ⟨r.selector, r.declarations.map f⟩ := by
  obtain ⟨f, hf⟩ := Declaration.exists_rename o.target
  exact ⟨f, hf, fun rules => Options.rules_run_eq_map hf rules⟩

end CustomProps
