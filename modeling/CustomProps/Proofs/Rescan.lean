import CustomProps.Proofs.Decoration
import CustomProps.Proofs.Renaming
import CustomProps.Report
/-!
# Scanning what a run has written

A scan of a rewritten value finds what a scan of the value found, under the new names and moved by
what the names before it have grown. So the report of a stylesheet after a run is the report before
it with the new names.
-/
namespace CustomProps

namespace Value

/-- Where the offset `x` of a value comes to lie when `f` of every name takes the place of the name:
it is moved by what the names that end at or before it grow. -/
def moved (f : String → String) (value : String) (x : Nat) : Int :=
  x + (((scan value).references.filter fun r => r.name.stop ≤ x).map fun r =>
    ((f (r.nameIn value)).utf8ByteSize : Int) - (r.nameIn value).utf8ByteSize).sum

/-- All that is known of where a reference lies is moved by `m`. -/
structure MovesReference (m : Nat → Int) (r r' : Reference) : Prop where
  span : MovesSpan m r.span r'.span
  name : MovesSpan m r.name r'.name
  fallback : Option.Rel (MovesSpan m) r.fallback r'.fallback

/-- A scan of `value'` finds what a scan of `value` finds, with `f` of its names. -/
structure Rescans (f : String → String) (value value' : String) : Prop where
  references : List.Forall₂ (MovesReference (moved f value)) (scan value).references
    (scan value').references
  names : (scan value').names value' = ((scan value).names value).map f
  unterminatedAt : Option.Rel (fun u u' : Nat => (u' : Int) = moved f value u)
    (scan value).unterminatedAt (scan value').unterminatedAt

/-! ### The names of a value and of its layout -/

theorem utf8_nameIn {value : String} {r : Reference} (hr : r ∈ (scan value).references) :
    utf8 (r.nameIn value) = between value.toByteArray r.name.start r.name.stop := by
  obtain ⟨name, hname⟩ := (within_name hr).exists_slice?
  rw [Reference.nameIn, Span.slice_of_slice? hname]
  exact Span.utf8_of_slice? hname

theorem growth_reference {value : String} {r : Reference} (hr : r ∈ (scan value).references) (text : String) :
    Edit.growth ⟨r.name, text⟩ = (text.utf8ByteSize : Int) - (r.nameIn value).utf8ByteSize := by
  obtain ⟨name, hname⟩ := (within_name hr).exists_slice?
  have hstop := Span.stop_of_slice? hname
  rw [Edit.growth, Reference.nameIn, Span.slice_of_slice? hname]
  dsimp only
  omega

theorem map_names_of_layout {value : String} {t : Layout} (ht : t.Sound)
    (h : utf8 value = t.bytes) :
    (scan value).references.map (fun r => (r.name, utf8 (r.nameIn value))) = t.names 0 := by
  have hnames := namesAt_of_layout ht h
  calc (scan value).references.map (fun r => (r.name, utf8 (r.nameIn value)))
      = ((scan value).references.map Reference.name).map fun s =>
          (s, between value.toByteArray s.start s.stop) := by
        rw [List.map_map]
        refine List.map_congr_left fun r hr => ?_
        rw [utf8_nameIn hr]
        rfl
    _ = (t.names 0).map fun n => (n.1, between value.toByteArray n.1.start n.1.stop) := by
        rw [map_name_references_of_layout ht h, List.map_map]
        rfl
    _ = t.names 0 := by
        refine (List.map_congr_left fun n hn => ?_).trans (List.map_id _)
        rw [hnames.bytes n hn]
        rfl

section Rename

variable {f : String → String} {value value' : String} {t : Layout} (ht : t.Sound)
  (h : utf8 value = t.bytes)

include ht h in
theorem moved_eq_shift (x : Nat) :
    moved f value x = x + shift (onBytes f) (t.names 0) x := by
  rw [← map_names_of_layout ht h, shift, List.filter_map, List.map_map, moved]
  refine congrArg (fun l => (x : Int) + List.sum l) (List.map_congr_left fun r _ => ?_)
  show _ = ((onBytes f (utf8 (r.nameIn value))).length : Int) - (utf8 (r.nameIn value)).length
  rw [onBytes_utf8, length_utf8, length_utf8]

include ht h in
theorem utf8_of_rename? (hrename : rename? f value = some value') :
    utf8 value' = (t.rename (onBytes f)).bytes := by
  have hchanges : (renames f value).map (fun e => (e.span, utf8 e.text)) =
      changes (onBytes f) (t.names 0) := by
    rw [← map_names_of_layout ht h, changes, renames, List.map_map, List.map_map]
    refine List.map_congr_left fun r _ => ?_
    show (r.name, utf8 (f (r.nameIn value))) = (r.name, onBytes f (utf8 (r.nameIn value)))
    rw [onBytes_utf8]
  have hall := (between_all value.toByteArray).trans h
  have hweave : weaveBytes value.toByteArray 0 (changes (onBytes f) (t.names 0) ++ []) =
      (t.rename (onBytes f)).bytes ++ weaveBytes value.toByteArray value.toByteArray.size [] :=
    Layout.weaveBytes_names (onBytes f) ht (Nat.zero_le _) (Nat.le_refl _) hall (by simp)
  rw [utf8_of_weave? hrename, hchanges]
  rw [weaveBytes, between_self, List.append_nil, List.append_nil] at hweave
  exact hweave

end Rename

theorem isSome_of_rel {α β : Type} {R : α → β → Prop} {a : Option α} {b : Option β}
    (h : Option.Rel R a b) : b.isSome = a.isSome := by
  cases h with
  | none => rfl
  | some _ => rfl

theorem isEmpty_of_forall₂ {α β : Type} {R : α → β → Prop} {as : List α} {bs : List β}
    (h : List.Forall₂ R as bs) : bs.isEmpty = as.isEmpty := by
  cases h with
  | nil => rfl
  | cons _ _ => rfl

theorem map_isSome_fallback {m : Nat → Int} {rs rs' : List Reference}
    (h : List.Forall₂ (MovesReference m) rs rs') :
    rs'.map (·.fallback.isSome) = rs.map (·.fallback.isSome) := by
  induction h with
  | nil => rfl
  | cons hr _ ih => rw [List.map_cons, List.map_cons, isSome_of_rel hr.fallback, ih]

theorem forall₂_references {m : Nat → Int} {cs cs' : List Call}
    (h : List.Forall₂ (MovesCall m) cs cs') :
    List.Forall₂ (MovesReference m) (cs.filterMap Call.reference?)
      (cs'.filterMap Call.reference?) := by
  induction h with
  | nil => exact List.Forall₂.nil
  | @cons c c' cs cs' hc _ ih =>
    obtain ⟨span, name, fallback⟩ := c
    obtain ⟨span', name', fallback'⟩ := c'
    obtain ⟨hspan, hname, hfallback⟩ := hc
    cases hname with
    | none => exact ih
    | some hr => exact List.Forall₂.cons ⟨hspan, hr, hfallback⟩ ih

/-- If new names do as the old ones did in name parts, a rewritten value is scanned as before. -/
theorem rescans_rename? {f : String → String} {value value' : String}
    (hf : ∀ p : NamePart, p.Sound → (p.rename (onBytes f)).Sound)
    (hrename : rename? f value = some value') : Rescans f value value' := by
  obtain ⟨t, ht, hbytes⟩ := Layout.exists_sound (utf8 value)
  have ht' := Layout.sound_rename hf ht
  have hbytes' := utf8_of_rename? ht hbytes.symm hrename
  have hscan := scan_eq_of_layout ht hbytes.symm
  have hscan' := scan_eq_of_layout ht' hbytes'
  have hfollows : Follows (onBytes f) (moved f value) (t.names 0) 0 0 t.bytes.length := by
    intro x _ _
    rw [moved_eq_shift ht hbytes.symm]
    omega
  obtain ⟨hcalls, hcut⟩ := Layout.moves ht hfollows
  refine ⟨?_, ?_, ?_⟩
  · rw [Scan.references, Scan.references, hscan, hscan']
    exact forall₂_references hcalls
  · have hnames := map_names_of_layout ht hbytes.symm
    have hnames' := map_names_of_layout ht' hbytes'
    have hrenamed := Layout.map_snd_names_rename (onBytes f) t 0 0
    rw [← hnames, ← hnames', List.map_map, List.map_map] at hrenamed
    refine (List.map_inj_right fun _ _ => utf8_injective).mp ?_
    rw [Scan.names, Scan.names, List.map_map, List.map_map, List.map_map]
    refine hrenamed.trans (List.map_congr_left fun r _ => ?_)
    exact onBytes_utf8 f (r.nameIn value)
  · rw [hscan, hscan']
    exact hcut

end Value

/-! ### Reports -/

/-- The entry says of a declaration after a run what the other one said of it before. -/
structure ReportEntry.Renamed (f : String → String) (e e' : ReportEntry) : Prop where
  ruleIndex : e'.ruleIndex = e.ruleIndex
  selector : e'.selector = e.selector
  prop : e'.prop = PropertyName.rename f e.prop
  declares : e'.declares = e.declares.map f
  usages : e'.usages.map (fun u => (u.name, u.hasFallback)) =
    e.usages.map fun u => (f u.name, u.hasFallback)
  unterminatedAt : e'.unterminatedAt.isSome = e.unterminatedAt.isSome

theorem PropertyName.ne_empty_of_ofProp? {prop name : String} (h : ofProp? prop = some name) :
    name ≠ "" := by
  unfold ofProp? at h
  split at h
  · rename_i c cs _
    cases h
    intro hempty
    have hlist := congrArg String.toList hempty
    simp at hlist
  · cases h

theorem PropertyName.ofProp?_rename {f : String → String} (hf : ∀ name, name ≠ "" → f name ≠ "")
    (prop : String) : ofProp? (rename f prop) = (ofProp? prop).map f := by
  unfold rename
  cases h : ofProp? prop with
  | none => exact h
  | some name => exact ofProp?_marker_append (hf name (ne_empty_of_ofProp? h))

theorem Options.target_ne_empty (o : Options) {name : String} (h : name ≠ "") :
    o.target name ≠ "" := by
  have happly : o.strategy.apply name ≠ "" := by
    cases o.strategy with
    | plain => exact h
    | debug =>
      intro hempty
      exact h (String.append_eq_empty_iff.mp hempty).1
  unfold target
  split
  · exact h
  · rw [decorate]
    split
    · intro hempty
      exact happly (String.append_eq_empty_iff.mp hempty).2
    · exact happly

theorem ReportEntry.rel_ofDeclaration? {f : String → String}
    (hf : ∀ name, name ≠ "" → f name ≠ "") {d d' : Declaration}
    (hprop : d'.prop = PropertyName.rename f d.prop) (hvalue : Value.Rescans f d.value d'.value)
    (i : Nat) (selector : String) :
    Option.Rel (Renamed f) (ofDeclaration? i selector d) (ofDeclaration? i selector d') := by
  have hdeclares : PropertyName.ofProp? d'.prop = (PropertyName.ofProp? d.prop).map f := by
    rw [hprop, PropertyName.ofProp?_rename hf]
  have hempty : (Value.scan d'.value).isEmpty = (Value.scan d.value).isEmpty :=
    Value.isEmpty_of_forall₂ hvalue.references
  have hcut := Value.isSome_of_rel hvalue.unterminatedAt
  have hclosed : (Value.scan d'.value).unterminatedAt.isNone =
      (Value.scan d.value).unterminatedAt.isNone := by
    rw [← Option.not_isSome, ← Option.not_isSome, hcut]
  unfold ofDeclaration?
  dsimp only
  rw [hdeclares, Option.isNone_map, hempty, hclosed]
  split
  · exact Option.Rel.none
  · refine Option.Rel.some ⟨rfl, rfl, hprop, rfl, ?_, hcut⟩
    have hnames := hvalue.names
    have hfallbacks := Value.map_isSome_fallback hvalue.references
    rw [Value.Scan.names, Value.Scan.names, List.map_map] at hnames
    rw [List.map_map, List.map_map]
    calc _ = ((Value.scan d'.value).references.map (·.nameIn d'.value)).zip
          ((Value.scan d'.value).references.map (·.fallback.isSome)) := List.zip_map'.symm
      _ = ((Value.scan d.value).references.map (f ∘ (·.nameIn d.value))).zip
          ((Value.scan d.value).references.map (·.fallback.isSome)) := by rw [hnames, hfallbacks]
      _ = _ := List.zip_map'

theorem forall₂_reportFrom {f : String → String} (hf : ∀ name, name ≠ "" → f name ≠ "")
    {g : Declaration → Declaration}
    (hg : ∀ d, (g d).prop = PropertyName.rename f d.prop ∧ Value.Rescans f d.value (g d).value)
    (i : Nat) (rules : List Rule) :
    List.Forall₂ (ReportEntry.Renamed f) (reportFrom i rules)
      (reportFrom i (rules.map fun r => ⟨r.selector, r.declarations.map g⟩)) := by
  have hds : ∀ (i : Nat) (selector : String) (ds : List Declaration),
      List.Forall₂ (ReportEntry.Renamed f) (ds.filterMap (ReportEntry.ofDeclaration? i selector))
        ((ds.map g).filterMap (ReportEntry.ofDeclaration? i selector)) := by
    intro i selector ds
    induction ds with
    | nil => exact List.Forall₂.nil
    | cons d ds ih =>
      have hentry := ReportEntry.rel_ofDeclaration? hf (hg d).1 (hg d).2 i selector
      rw [List.map_cons, List.filterMap_cons, List.filterMap_cons]
      generalize ReportEntry.ofDeclaration? i selector d = e at hentry
      generalize ReportEntry.ofDeclaration? i selector (g d) = e' at hentry
      cases hentry with
      | none => exact ih
      | some he => exact List.Forall₂.cons he ih
  induction rules generalizing i with
  | nil => exact List.Forall₂.nil
  | cons r rules ih => exact List.rel_append (hds i r.selector r.declarations) (ih (i + 1))

/-! ### Renaming commutes with scanning -/

/-- Under a leading text without marks, whatever a walk has met before, the value that it writes is
scanned as the value that it read, and the report of a stylesheet after a run is the report before
it under the new names. -/
theorem rescans_run {o : Options} (ho : o.LeadsPlainly) :
    (∀ w, Walk.Reachable o w → ∀ d : Declaration,
      Value.Rescans o.target d.value (w.declaration d).1.value) ∧
    ∀ s : Stylesheet, List.Forall₂ (ReportEntry.Renamed o.target) s.report
      (Stylesheet.report ⟨(o.run s.rules).rules⟩) := by
  have hvalue : ∀ {d d' : Declaration}, d.rename? o.target = some d' →
      d'.prop = PropertyName.rename o.target d.prop ∧ Value.Rescans o.target d.value d'.value := by
    intro d d' hd
    obtain ⟨value, hrename, rfl⟩ := Option.map_eq_some_iff.mp hd
    exact ⟨rfl, Value.rescans_rename? (Options.sound_rename_target ho) hrename⟩
  constructor
  · intro w hw d
    exact (hvalue (Walk.declaration_fst hw.faithful d)).2
  · intro s
    obtain ⟨g, hg⟩ := Declaration.exists_rename o.target
    have hrules := (Walk.rules_spec (w := Walk.start o) (Resolver.faithful_new o) hg s.rules).1
    rw [Stylesheet.report, Stylesheet.report, Options.run]
    dsimp only
    rw [hrules]
    exact forall₂_reportFrom (fun _ => o.target_ne_empty) (fun d => hvalue (hg d)) 0 s.rules

/-- The leading text of a usual run holds no mark. -/
theorem rescans_run_of_app :
    (⟨.debug, [.exact "kept"], some "app"⟩ : Options).LeadsPlainly ∧
      Value.Rescans (Options.target ⟨.debug, [.exact "kept"], some "app"⟩)
        "calc(1px + var( --a, var(--kept)))"
        ((Walk.start ⟨.debug, [.exact "kept"], some "app"⟩).declaration
          ⟨"--b", "calc(1px + var( --a, var(--kept)))"⟩).1.value := by
  have hlead : (⟨.debug, [.exact "kept"], some "app"⟩ : Options).LeadsPlainly := by
    intro lead hlead
    cases hlead
    simp [Value.marks]
  exact ⟨hlead, (rescans_run hlead).1 _ Walk.Reachable.start ⟨"--b", _⟩⟩

end CustomProps
