import CustomProps.Proofs.Renaming
import CustomProps.Proofs.Value.Exactness
import CustomProps.Proofs.Value.Frames
/-!
# What an unterminated call takes with it

A call that does not close ends the search, and all that it costs is the tail of the value. What
stands in front of the call is scanned and rewritten as if the value ended there, and from the call
on the value stays as it was.
-/
namespace CustomProps

/-! ### A text and one more behind it -/

theorem Span.slice?_append_right {r : Span} {s t : String} (z : String) (h : r.slice? s = some t) :
    r.slice? (s ++ z) = some t := by
  obtain ⟨a, y, rfl, hstart, hstop⟩ := slice?_eq_some_iff.mp h
  refine slice?_eq_some_iff.mpr ⟨a, y ++ z, ?_, hstart, hstop⟩
  rw [String.append_assoc, String.append_assoc]

theorem Edit.weave?_append {s w : String} {p : Nat} {es : List Edit} (z : String)
    (h : weave? s p es = some w) : weave? (s ++ z) p es = some (w ++ z) := by
  induction es generalizing p w with
  | nil =>
    have hrest : Span.slice? ⟨s.utf8ByteSize, (s ++ z).utf8ByteSize⟩ (s ++ z) = some z := by
      refine Span.slice?_eq_some_iff.mpr ⟨s, "", ?_, rfl, String.utf8ByteSize_append⟩
      rw [String.append_empty]
    exact Span.slice?_append (Span.slice?_append_right z h) hrest
  | cons e es ih =>
    obtain ⟨before, old, after, hbefore, hold, hafter, rfl⟩ := weave?_cons_eq_some_iff.mp h
    refine weave?_cons_eq_some_iff.mpr ⟨before, old, after ++ z,
      Span.slice?_append_right z hbefore, Span.slice?_append_right z hold, ih hafter, ?_⟩
    rw [String.append_assoc, String.append_assoc]

namespace Value

/-! ### The layout in front of an open end -/

namespace Layout

variable {t : Layout}

/-- The layout up to the call that does not close. -/
def trunk : Layout → Layout
  | plain text => plain text
  | cut gap _ _ => plain gap
  | call gap word part after => call gap word part after.trunk
  | callWith gap word part fallback after => callWith gap word part fallback after.trunk

theorem sound_trunk (ht : t.Sound) : t.trunk.Sound := by
  induction t with
  | plain text => exact ht
  | cut gap word rest => exact ht.1.noSite
  | call gap word part after iha =>
    obtain ⟨hgap, hword, hpart, hafter⟩ := ht
    exact ⟨hgap, hword, hpart, iha hafter⟩
  | callWith gap word part fallback after _ iha =>
    obtain ⟨hgap, hword, hpart, hfallback, hafter⟩ := ht
    exact ⟨hgap, hword, hpart, hfallback, iha hafter⟩

theorem calls_trunk (t : Layout) (o : Nat) : t.trunk.calls o = t.calls o := by
  induction t generalizing o with
  | plain text => rfl
  | cut gap word rest => rfl
  | call gap word part after iha => simp only [trunk, calls, iha]
  | callWith gap word part fallback after _ iha => simp only [trunk, calls, iha]

theorem cutAt?_trunk (t : Layout) (o : Nat) : t.trunk.cutAt? o = none := by
  induction t generalizing o with
  | plain text => rfl
  | cut gap word rest => rfl
  | call gap word part after iha => exact iha _
  | callWith gap word part fallback after _ iha => exact iha _

/-- The layout ends its trunk where it has its open end. -/
theorem exists_bytes_eq (ht : t.Sound) {o u : Nat} (hu : t.cutAt? o = some u) :
    ∃ tail, t.bytes = t.trunk.bytes ++ tail ∧ u = o + t.trunk.bytes.length := by
  induction t generalizing o with
  | plain text => cases hu
  | cut gap word rest => exact ⟨word ++ rest, rfl, (Option.some.inj hu).symm⟩
  | call gap word part after iha =>
    obtain ⟨-, hword, -, hafter⟩ := ht
    obtain ⟨tail, hbytes, rfl⟩ := iha hafter hu
    refine ⟨tail, ?_, ?_⟩
    · simp only [trunk, bytes, hbytes, List.append_assoc, List.cons_append]
    · simp only [trunk, bytes, List.length_append, List.length_cons, hword.length]
      omega
  | callWith gap word part fallback after _ iha =>
    obtain ⟨-, hword, -, -, hafter⟩ := ht
    obtain ⟨tail, hbytes, rfl⟩ := iha hafter hu
    refine ⟨tail, ?_, ?_⟩
    · simp only [trunk, bytes, hbytes, List.append_assoc, List.cons_append]
    · simp only [trunk, bytes, List.length_append, List.length_cons, hword.length]
      omega

end Layout

/-! ### The value in front of an unterminated call -/

section Head

variable {value head tail : String} {u : Nat}

/-- A value may be cut where its unterminated call begins. -/
theorem isValid_unterminatedAt (hu : (scan value).unterminatedAt = some u) :
    String.Pos.Raw.IsValid value ⟨u⟩ := by
  obtain ⟨x, -, -, hx, -, -, hat, -, -⟩ := (site_of_unterminatedAt hu).getElem?_letters
  obtain ⟨hlt, hget⟩ := List.getElem?_eq_some_iff.mp hat
  refine (isValid_of_lt hlt ?_).1
  exact Ascii.lt_of_toLower _ (hget ▸ hx)

/-- In front of the unterminated call the same calls are found, and all of them end. -/
theorem scan_of_unterminatedAt (hu : (scan (head ++ tail)).unterminatedAt = some u)
    (hsize : head.utf8ByteSize = u) : scan head = ⟨(scan (head ++ tail)).calls, none⟩ := by
  obtain ⟨t, ht, hbytes⟩ := Layout.exists_sound (utf8 (head ++ tail))
  rw [scan_eq_of_layout ht hbytes.symm] at hu ⊢
  obtain ⟨rest, hsplit, hlen⟩ := Layout.exists_bytes_eq ht hu
  rw [hbytes, utf8_append] at hsplit
  obtain ⟨hhead, -⟩ := List.append_inj hsplit (by rw [length_utf8]; omega)
  rw [scan_eq_of_layout (Layout.sound_trunk ht) hhead, Layout.calls_trunk, Layout.cutAt?_trunk]

theorem renames_of_calls_eq (f : String → String)
    (h : (scan head).calls = (scan (head ++ tail)).calls) :
    renames f (head ++ tail) = renames f head := by
  have hreferences : (scan (head ++ tail)).references = (scan head).references :=
    congrArg (List.filterMap Call.reference?) h.symm
  rw [renames, renames, hreferences]
  refine List.map_congr_left fun r hr => ?_
  obtain ⟨name, hname⟩ := (within_name hr).exists_slice?
  rw [Reference.nameIn, Reference.nameIn, Span.slice_of_slice? hname,
    Span.slice_of_slice? (Span.slice?_append_right tail hname)]

theorem rename?_append {f : String → String} {renamed : String}
    (h : (scan head).calls = (scan (head ++ tail)).calls)
    (hrename : rename? f head = some renamed) :
    rename? f (head ++ tail) = some (renamed ++ tail) := by
  rw [rename?, renames_of_calls_eq f h]
  exact Edit.weave?_append tail hrename

end Head

end Value

theorem Walk.rename?_value_declaration {o : Options} {w : Walk} (h : w.resolver.Faithful o)
    (d : Declaration) : Value.rename? o.target d.value = some (w.declaration d).1.value := by
  obtain ⟨value, hvalue, hd⟩ := Option.map_eq_some_iff.mp (declaration_fst h d)
  rw [hvalue, ← hd]

/-- An unterminated call only cuts the tail. No call that was found reaches it; the search ends with
it in the outermost frame, with no fallback left to be searched; and in front of it the value is
scanned and rewritten as if it ended there. -/
theorem cuts_tail_of_unterminatedAt {value : String} {u : Nat}
    (h : (Value.scan value).unterminatedAt = some u) :
    (∀ c ∈ (Value.scan value).calls, c.span.stop ≤ u) ∧
      (∃ s, Value.Search.Reachable value.toByteArray s ∧ s.step = .inr (Value.scan value)) ∧
      (∀ s found, Value.Search.Reachable value.toByteArray s → s.step = .inr found →
        found = Value.scan value ∧ ∃ f, s.frames = [f] ∧ f.stop = value.utf8ByteSize) ∧
      ∃ head tail, value = head ++ tail ∧ head.utf8ByteSize = u ∧
        Value.scan head = ⟨(Value.scan value).calls, none⟩ ∧
        ∀ o w, Walk.Reachable o w → ∀ prop, (w.declaration ⟨prop, value⟩).1.value =
          (w.declaration ⟨prop, head⟩).1.value ++ tail := by
  refine ⟨fun c hc => Value.stop_le_unterminatedAt h hc, Value.Search.Reachable.start.exists_end,
    fun s found hs hstep => ?_, ?_⟩
  · have hfound : found = Value.scan value := by
      rw [← Value.Search.run_of_step_inr hstep, hs.run_eq, Value.scan]
    rw [← hfound] at h
    exact ⟨hfound, hs.nested.outermost hstep h⟩
  · obtain ⟨head, tail, rfl, hsize⟩ := isValid_iff.mp (Value.isValid_unterminatedAt h)
    have hscan := Value.scan_of_unterminatedAt h hsize.symm
    have hcalls : (Value.scan head).calls = (Value.scan (head ++ tail)).calls := by rw [hscan]
    refine ⟨head, tail, rfl, hsize.symm, hscan, fun o w hw prop => ?_⟩
    have hfront := Walk.rename?_value_declaration hw.faithful ⟨prop, head⟩
    have hwhole := Walk.rename?_value_declaration hw.faithful ⟨prop, head ++ tail⟩
    exact Option.some.inj (hwhole.symm.trans (Value.rename?_append hcalls hfront))

/-- In `var(--ok) var(--broken, var(--never` the second call does not close. -/
theorem cuts_tail_of_broken :
    (Value.scan "var(--ok) var(--broken, var(--never").unterminatedAt = some 10 ∧
      ∃ head tail, "var(--ok) var(--broken, var(--never" = head ++ tail ∧ head.utf8ByteSize = 10 ∧
        Value.scan head = ⟨(Value.scan "var(--ok) var(--broken, var(--never").calls, none⟩ ∧
        ∀ o w, Walk.Reachable o w → ∀ prop,
          (w.declaration ⟨prop, "var(--ok) var(--broken, var(--never"⟩).1.value =
            (w.declaration ⟨prop, head⟩).1.value ++ tail := by
  have h : (Value.scan "var(--ok) var(--broken, var(--never").unterminatedAt = some 10 := by
    decide +kernel
  exact ⟨h, (cuts_tail_of_unterminatedAt h).2.2.2⟩

end CustomProps
