import CustomProps.Proofs.Guarded.Scan
import CustomProps.Proofs.Renaming
/-!
# A walk that looks before it cuts

The walk over declarations once more, with the guarded scan, with names that are cut out at bare
ranges, and with edits each of which has to fit the text that those before it left. No declaration
leads to a fault, under any options and whatever the walk has met before.
-/
namespace CustomProps.Guarded

/-! ### Edits -/

/-- One edit of a text. -/
def splice (s : String) (e : Edit) : Except Fault String :=
  match e.splice? s with
  | some t => .ok t
  | none => .error (.edit e)

/-- All edits one after the other, from the highest start down. -/
def applyAll (edits : List Edit) (s : String) : Except Fault String :=
  (Edit.schedule edits).foldlM splice s

theorem foldlM_splice_eq {edits : List Edit} {s t : String}
    (h : edits.foldlM (fun s e => e.splice? s) s = some t) : edits.foldlM splice s = .ok t := by
  induction edits generalizing s with
  | nil =>
    cases h
    rfl
  | cons e edits ih =>
    obtain ⟨u, hu, ht⟩ := Option.bind_eq_some_iff.mp h
    have hstep : splice s e = .ok u := by
      dsimp only at hu
      rw [splice, hu]
    rw [List.foldlM_cons, hstep, ok_bind]
    exact ih ht

theorem applyAll_eq {edits : List Edit} {s t : String} (h : Edit.applyAll? edits s = some t) :
    applyAll edits s = .ok t :=
  foldlM_splice_eq h

/-- An edit that begins within a character is a fault. -/
example : applyAll [⟨⟨1, 2⟩, "e"⟩] "é" = .error (.edit ⟨⟨1, 2⟩, "e"⟩) := by decide +kernel

/-! ### The walk -/

/-- The name of a reference and its fallback, cut out of the value. -/
def parts (value : String) (r : Value.Reference) : Except Fault (String × Option String) := do
  let name ← piece value r.name
  match r.fallback with
  | none => .ok (name, none)
  | some range =>
    let fallback ← piece value range
    .ok (name, some fallback)

/-- The edits that rename the given references of a value, each name cut out of the value. -/
def edits (w : Walk) (value : String) : List Value.Reference → Except Fault (List Edit × Walk)
  | [] => .ok ([], w)
  | r :: rest => do
    let name ← piece value r.name
    let (resolution, w) := w.meet name
    let (later, w) ← edits w value rest
    .ok (if resolution.changes name then (⟨r.name, resolution.renamed⟩ :: later, w) else (later, w))

/-- The value of a declaration after renaming. -/
def value (w : Walk) (value : String) : Except Fault (String × Walk) := do
  let found ← scan value
  let w := { w with log := w.log ++ found.events value }
  let w :=
    if found.unterminatedAt.isSome then
      { w with stats := { w.stats with unterminatedValues := w.stats.unterminatedValues + 1 } }
    else w
  let (edits, w) ← edits w value found.references
  if edits.isEmpty then .ok (value, w)
  else
    let rewritten ← applyAll edits value
    let w := w.report (.valueRewritten value rewritten)
    .ok (rewritten,
      { w with stats := { w.stats with valuesRewritten := w.stats.valuesRewritten + 1 } })

def declaration (w : Walk) (d : Declaration) : Except Fault (Declaration × Walk) := do
  let w :=
    { w with stats := { w.stats with declarationsVisited := w.stats.declarationsVisited + 1 } }
  let (prop, w) := w.property d.prop
  let (value, w) ← value w d.value
  .ok (⟨prop, value⟩, w)

/-! ### No fault -/

theorem parts_eq {value : String} {r : Value.Reference} (hr : r ∈ (Value.scan value).references) :
    parts value r = .ok (r.nameIn value, r.fallbackIn value) := by
  obtain ⟨c, hc, hcr⟩ := List.mem_filterMap.mp hr
  obtain ⟨-, -, hsame⟩ := Value.Call.reference?_eq_some_iff.mp hcr
  obtain ⟨name, hname⟩ := (Value.within_name hr).exists_slice?
  rw [parts, piece_eq hname, ok_bind, Value.Reference.nameIn, Span.slice_of_slice? hname,
    Value.Reference.fallbackIn]
  cases hrange : r.fallback with
  | none => rfl
  | some range =>
    obtain ⟨fallback, hfallback⟩ :=
      (Value.within_fallback hc (hsame.trans hrange)).exists_slice?
    dsimp only
    rw [piece_eq hfallback, ok_bind, Option.map_some, Span.slice_of_slice? hfallback]

theorem mapM_parts {value : String} {rs : List Value.Reference}
    (h : rs ⊆ (Value.scan value).references) :
    rs.mapM (parts value) = .ok (rs.map fun r => (r.nameIn value, r.fallbackIn value)) := by
  induction rs with
  | nil => rfl
  | cons r rs ih =>
    obtain ⟨hr, hrest⟩ := List.cons_subset.mp h
    rw [List.mapM_cons, parts_eq hr, ok_bind, ih hrest]
    rfl

end CustomProps.Guarded

namespace CustomProps.Walk

open Guarded (ok_bind)

theorem edits_guarded (w : Walk) {value : String} {rs : List Value.Reference}
    (h : ∀ r ∈ rs, r.name.Within value) :
    Guarded.edits w value rs = .ok (w.edits value rs) := by
  induction rs generalizing w with
  | nil => rfl
  | cons r rs ih =>
    obtain ⟨name, hname⟩ := (h r (List.mem_cons_self ..)).exists_slice?
    have hrest := ih (w.meet name).2 fun r' hr' => h r' (List.mem_cons_of_mem _ hr')
    have hin : r.nameIn value = name := Span.slice_of_slice? hname
    rw [Guarded.edits, Guarded.piece_eq hname, ok_bind, edits, hin]
    dsimp only
    rw [hrest, ok_bind]

/-- The ranges of the edits are those of some of the references, in their order. -/
theorem map_span_edits (w : Walk) (value : String) (rs : List Value.Reference) :
    ((w.edits value rs).1.map Edit.span).Sublist (rs.map Value.Reference.name) := by
  induction rs generalizing w with
  | nil => exact List.Sublist.refl _
  | cons r rs ih =>
    have hrest := ih (w.meet (r.nameIn value)).2
    unfold edits
    dsimp only
    split
    · exact hrest.cons_cons r.name
    · exact hrest.cons r.name

/-- The edits of a value fit it one after the other, whatever new names they bring. -/
theorem exists_applyAll? (w : Walk) (value : String) :
    ∃ t, Edit.applyAll? (w.edits value (Value.scan value).references).1 value = some t := by
  have hspans := map_span_edits w value (Value.scan value).references
  have hchain : (w.edits value (Value.scan value).references).1.Pairwise Edit.Precedes := by
    have hrising := (Value.ascending_names value).pairwise.sublist hspans
    rw [List.pairwise_map] at hrising
    exact hrising.imp fun ⟨hstart, hstop⟩ => ⟨hstart, hstop⟩
  have hfit : ∀ e ∈ (w.edits value (Value.scan value).references).1, e.span.Within value := by
    intro e he
    obtain ⟨r, hr, hname⟩ := List.mem_map.mp (hspans.subset (List.mem_map_of_mem he))
    rw [← hname]
    exact Value.within_name hr
  obtain ⟨t, ht⟩ := Edit.exists_weave? String.Pos.Raw.isValid_zero
    (fun e _ => Nat.zero_le e.span.start) hchain hfit
  exact ⟨t, Edit.applyAll?_eq_weave? hchain (List.Perm.refl _) ht⟩

theorem value_guarded (w : Walk) (value : String) :
    Guarded.value w value = .ok (w.value value) := by
  rw [Guarded.value, Guarded.scan_eq, ok_bind, Walk.value]
  dsimp only
  -- What the scan adds to the log and to the counters has no part in the edits.
  generalize (if (Value.scan value).unterminatedAt.isSome = true then (_ : Walk) else _) = w
  obtain ⟨t, ht⟩ := exists_applyAll? w value
  rw [edits_guarded w fun r hr => Value.within_name hr, ok_bind]
  split
  · rfl
  · rw [Guarded.applyAll_eq ht, ok_bind, ht, Option.getD_some]

theorem declaration_guarded (w : Walk) (d : Declaration) :
    Guarded.declaration w d = .ok (w.declaration d) := by
  rw [Guarded.declaration]
  dsimp only
  rw [value_guarded, ok_bind]
  rfl

/-- No declaration leads to a fault, whatever the walk has met before it: every byte that is read
lies in front of the bound, every cut and every edit fits, and the result is that of the walk. All
names and fallbacks that a scan reports can be cut out of the value as well. -/
theorem unfaulted_declaration (w : Walk) (d : Declaration) :
    Guarded.declaration w d = .ok (w.declaration d) ∧
      (Value.scan d.value).references.mapM (Guarded.parts d.value) =
        .ok ((Value.scan d.value).references.map fun r =>
          (r.nameIn d.value, r.fallbackIn d.value)) :=
  ⟨declaration_guarded w d, Guarded.mapM_parts (List.Subset.refl _)⟩

end CustomProps.Walk
