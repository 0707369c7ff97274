import CustomProps.Proofs.Text.Slices
import CustomProps.Proofs.Value.Anatomy
/-!
# A scan by recursion

The search for calls keeps a stack of frames and never copies a text. What it finds is what a plain
recursion finds that takes the first call of a value, and then scans the text of its fallback and
the text behind the call, each cut out as a value of its own.
-/
namespace CustomProps

/-- The range `d` bytes further. -/
def Span.shift (d : Nat) (r : Span) : Span := ⟨d + r.start, d + r.stop⟩

theorem Span.utf8ByteSize_slice_le (r : Span) (s : String) :
    (r.slice s).utf8ByteSize ≤ r.stop - r.start := by
  unfold slice
  cases h : r.slice? s with
  | none => exact Nat.zero_le _
  | some t =>
    have hstop := stop_of_slice? h
    rw [Option.getD_some]
    omega

theorem Span.utf8_slice {r : Span} {s : String} (h : r.Within s) :
    utf8 (r.slice s) = Value.between s.toByteArray r.start r.stop := by
  obtain ⟨t, ht⟩ := h.exists_slice?
  rw [slice_of_slice? ht]
  exact utf8_of_slice? ht

namespace Value

def Call.shift (d : Nat) (c : Call) : Call :=
  ⟨c.span.shift d, c.name.map (Span.shift d), c.fallback.map (Span.shift d)⟩

/-- What was found, in a text that begins `d` bytes further. -/
def Scan.shift (d : Nat) (s : Scan) : Scan :=
  ⟨s.calls.map (Call.shift d), s.unterminatedAt.map (d + ·)⟩

/-- The scan of a value from the scans of the texts in and behind its first call. -/
def rescan (value : String) : Scan :=
  match findOpen? value.toByteArray (Nat.le_refl _) 0 with
  | none => ⟨[], none⟩
  | some first =>
    match hc : findClose? value.toByteArray (Nat.le_refl _) 0 (first + 4) with
    | none => ⟨[], some first⟩
    | some close =>
      have hk : close < value.utf8ByteSize := (findClose?_bounds hc).2
      let after := (rescan (Span.slice ⟨close + 1, value.utf8ByteSize⟩ value)).shift (close + 1)
      match hm : findComma? value.toByteArray (Nat.le_of_lt hk) 0 (first + 4) with
      | none =>
        ⟨⟨⟨first, close + 1⟩, nameSpan? value.toByteArray (first + 4) close (Nat.le_of_lt hk),
          none⟩ :: after.calls, after.unterminatedAt⟩
      | some comma =>
        have hn : comma ≤ value.utf8ByteSize :=
          Nat.le_of_lt (Nat.lt_trans (findComma?_bounds hm).2 hk)
        let inner := (rescan (Span.slice ⟨comma + 1, close⟩ value)).shift (comma + 1)
        ⟨⟨⟨first, close + 1⟩, nameSpan? value.toByteArray (first + 4) comma hn,
          some ⟨comma + 1, close⟩⟩ :: (inner.calls ++ after.calls), after.unterminatedAt⟩
termination_by value.utf8ByteSize
decreasing_by
  · have hle := Span.utf8ByteSize_slice_le ⟨close + 1, value.utf8ByteSize⟩ value
    dsimp only at hle
    omega
  · have hle := Span.utf8ByteSize_slice_le ⟨comma + 1, close⟩ value
    dsimp only at hle
    omega

/-! ### One step of the recursion -/

section Step

variable {value : String} {first close comma : Nat}

theorem rescan_of_plain (ho : findOpen? value.toByteArray (Nat.le_refl _) 0 = none) :
    rescan value = ⟨[], none⟩ := by
  rw [rescan]
  simp only [ho]

theorem rescan_of_cut (ho : findOpen? value.toByteArray (Nat.le_refl _) 0 = some first)
    (hc : findClose? value.toByteArray (Nat.le_refl _) 0 (first + 4) = none) :
    rescan value = ⟨[], some first⟩ := by
  rw [rescan]
  simp only [ho]
  split
  · rfl
  · rename_i close hsome
    rw [hc] at hsome
    cases hsome

theorem rescan_of_call (hk : close ≤ value.toByteArray.size)
    (ho : findOpen? value.toByteArray (Nat.le_refl _) 0 = some first)
    (hc : findClose? value.toByteArray (Nat.le_refl _) 0 (first + 4) = some close)
    (hm : findComma? value.toByteArray hk 0 (first + 4) = none) :
    rescan value =
      let after := (rescan (Span.slice ⟨close + 1, value.utf8ByteSize⟩ value)).shift (close + 1)
      ⟨⟨⟨first, close + 1⟩, nameSpan? value.toByteArray (first + 4) close hk, none⟩ :: after.calls,
        after.unterminatedAt⟩ := by
  rw [rescan]
  simp only [ho]
  split
  · rename_i hnone
    rw [hc] at hnone
    cases hnone
  · rename_i close' hsome
    obtain rfl : close = close' := by
      rw [hc] at hsome
      exact Option.some.inj hsome
    split
    · rfl
    · rename_i comma hsome'
      rw [hm] at hsome'
      cases hsome'

theorem rescan_of_callWith (hk : close ≤ value.toByteArray.size)
    (hn : comma ≤ value.toByteArray.size)
    (ho : findOpen? value.toByteArray (Nat.le_refl _) 0 = some first)
    (hc : findClose? value.toByteArray (Nat.le_refl _) 0 (first + 4) = some close)
    (hm : findComma? value.toByteArray hk 0 (first + 4) = some comma) :
    rescan value =
      let after := (rescan (Span.slice ⟨close + 1, value.utf8ByteSize⟩ value)).shift (close + 1)
      let inner := (rescan (Span.slice ⟨comma + 1, close⟩ value)).shift (comma + 1)
      ⟨⟨⟨first, close + 1⟩, nameSpan? value.toByteArray (first + 4) comma hn,
        some ⟨comma + 1, close⟩⟩ :: (inner.calls ++ after.calls), after.unterminatedAt⟩ := by
  rw [rescan]
  simp only [ho]
  split
  · rename_i hnone
    rw [hc] at hnone
    cases hnone
  · rename_i close' hsome
    obtain rfl : close = close' := by
      rw [hc] at hsome
      exact Option.some.inj hsome
    split
    · rename_i hnone
      rw [hm] at hnone
      cases hnone
    · rename_i comma' hsome'
      obtain rfl : comma = comma' := by
        rw [hm] at hsome'
        exact Option.some.inj hsome'
      rfl

end Step

/-! ### The recursion follows the layout -/

/-- The text behind a byte below 128. -/
theorem utf8_behind {value : String} {k : Nat} (hk : k < value.toByteArray.size)
    (hx : value.toByteArray[k] < 0x80) :
    utf8 (Span.slice ⟨k + 1, value.utf8ByteSize⟩ value) =
      between value.toByteArray (k + 1) value.toByteArray.size :=
  Span.utf8_slice (r := ⟨_, _⟩) ⟨hk, (isValid_of_lt hk hx).2, String.Pos.Raw.isValid_rawEndPos⟩

namespace Layout

theorem map_shift_span? (p : NamePart) (d o : Nat) :
    (p.span? o).map (Span.shift d) = p.span? (d + o) := by
  cases p with
  | named lead name trail => simp only [NamePart.span?, Option.map_some, Span.shift, Nat.add_assoc]
  | nameless text => rfl

theorem map_shift_calls (t : Layout) (d o : Nat) :
    (t.calls o).map (Call.shift d) = t.calls (d + o) := by
  induction t generalizing o with
  | plain text => rfl
  | cut gap word rest => rfl
  | call gap word part after iha =>
    simp only [calls, List.map_cons, Call.shift, Span.shift, Option.map_none, iha, map_shift_span?,
      ← Nat.add_assoc]
  | callWith gap word part fallback after ihf iha =>
    simp only [calls, List.map_cons, List.map_append, Call.shift, Span.shift, Option.map_some, ihf,
      iha, map_shift_span?, ← Nat.add_assoc]

theorem map_shift_cutAt? (t : Layout) (d o : Nat) :
    (t.cutAt? o).map (d + ·) = t.cutAt? (d + o) := by
  induction t generalizing o with
  | plain text => rfl
  | cut gap word rest => simp only [cutAt?, Option.map_some, Nat.add_assoc]
  | call gap word part after iha => simp only [cutAt?, iha, ← Nat.add_assoc]
  | callWith gap word part fallback after _ iha => simp only [cutAt?, iha, ← Nat.add_assoc]

theorem shift_scan (t : Layout) (d : Nat) :
    (⟨t.calls 0, t.cutAt? 0⟩ : Scan).shift d = ⟨t.calls d, t.cutAt? d⟩ := by
  rw [Scan.shift, map_shift_calls, map_shift_cutAt?, Nat.add_zero]

end Layout

/-- The recursion finds the calls of the layout that the value has. -/
theorem rescan_eq_of_layout {value : String} {t : Layout} (ht : t.Sound)
    (h : utf8 value = t.bytes) : rescan value = ⟨t.calls 0, t.cutAt? 0⟩ := by
  induction t generalizing value with
  | plain text =>
    have hall := (between_all value.toByteArray).trans h
    refine rescan_of_plain (findOpen?_of_forall_not_site (Nat.zero_le _) beginsWord_zero ?_)
    rw [hall]
    exact ht
  | cut gap word rest =>
    obtain ⟨hgap, hword, hrest⟩ := ht
    have hall := (between_all value.toByteArray).trans h
    exact rescan_of_cut (findOpen?_gap (Nat.zero_le _) beginsWord_zero hgap hword hall)
      (findClose?_of_cut (Nat.le_refl _) (Nat.zero_le _) hword hrest hall)
  | call gap word part after iha =>
    obtain ⟨hgap, hword, hpart, hafter⟩ := ht
    have hall := (between_all value.toByteArray).trans h
    have ho : findOpen? value.toByteArray (Nat.le_refl _) 0 = some (0 + gap.length) :=
      findOpen?_gap (Nat.zero_le _) beginsWord_zero hgap hword hall
    obtain ⟨close, hk, hlt, rfl, hclose, hrest, hc, hm, hn⟩ :=
      answers_call (Nat.le_refl _) (Nat.zero_le _) hword hpart hall
    have hbehind := (utf8_behind hk (by rw [hclose]; decide)).trans hrest
    rw [rescan_of_call _ ho hc hm, iha hafter hbehind, Layout.shift_scan, hn]
    rfl
  | callWith gap word part fallback after ihf iha =>
    obtain ⟨hgap, hword, hpart, ⟨hfallback, hclosed⟩, hafter⟩ := ht
    have hall := (between_all value.toByteArray).trans h
    have ho : findOpen? value.toByteArray (Nat.le_refl _) 0 = some (0 + gap.length) :=
      findOpen?_gap (Nat.zero_le _) beginsWord_zero hgap hword hall
    obtain ⟨comma, close, hmk, hk, rfl, rfl, hcomma, hclose, hin, hrest, hc, hm, hn⟩ :=
      answers_callWith (Nat.le_refl _) (Nat.zero_le _) hword hpart hclosed hall
    have hbehind := (utf8_behind hk (by rw [hclose]; decide)).trans hrest
    have hinner := (Span.utf8_slice (r := ⟨_, _⟩) ⟨hmk,
      (isValid_of_lt (Nat.lt_trans hmk hk) (by rw [hcomma]; decide)).2,
      (isValid_of_lt hk (by rw [hclose]; decide)).1⟩).trans hin
    rw [rescan_of_callWith _ (Nat.le_of_lt (Nat.lt_trans hmk hk)) ho hc hm, iha hafter hbehind,
      ihf hfallback hinner, Layout.shift_scan, Layout.shift_scan, hn]
    rfl

/-! ### The pieces of a call -/

section Pieces

variable {value : String} {c : Call} {r : Span}

theorem within_of_mem_scan (hc : c ∈ (scan value).calls) : c.span.Within value := by
  have hstands := stands_of_mem_scan hc
  obtain ⟨hlt, hclose⟩ := hstands.closes
  have hpart := hstands.part.le
  have hstop := hstands.lt
  obtain ⟨x, y, z, hword, hx, -⟩ := isOpening_iff.mp hstands.opening
  obtain ⟨hat, hletter, -⟩ := between_eq_cons (by omega) (Nat.le_add_right _ 4) hword
  refine ⟨by omega, (isValid_of_lt (by omega) ?_).1, ?_⟩
  · rw [hletter]
    exact Ascii.lt_of_toLower x hx
  · have hend := (isValid_of_lt hlt (by rw [hclose]; decide)).2
    rwa [Nat.sub_add_cancel (by omega)] at hend

theorem within_fallback (hc : c ∈ (scan value).calls) (hr : c.fallback = some r) :
    r.Within value := by
  have hstands := stands_of_mem_scan hc
  obtain ⟨hlt, hclose⟩ := hstands.closes
  obtain ⟨hpos, ⟨hlt', hcomma⟩, hle, hstop⟩ := hstands.fallback r hr
  refine ⟨hle, ?_, ?_⟩
  · have hstart := (isValid_of_lt hlt' (by rw [hcomma]; decide)).2
    rwa [Nat.sub_add_cancel hpos] at hstart
  · have hend := (isValid_of_lt hlt (by rw [hclose]; decide)).1
    rwa [← hstop, Nat.add_sub_cancel] at hend

/-- A text that a reader gets through, up to where it began, holds no unterminated call. -/
theorem unterminatedAt_of_read? {text : String} (h : Nesting.top.read? (utf8 text) = some .top) :
    (scan text).unterminatedAt = none := by
  obtain ⟨t, ht, hbytes⟩ := Layout.exists_sound (utf8 text)
  rw [← hbytes] at h
  rw [scan_eq_of_layout ht hbytes.symm]
  exact Layout.cutAt?_eq_none_of_read? ht h 0

end Pieces

/-- A scan finds what the recursion finds. The call and the fallback can be cut out of the value,
and the fallback, scanned as a value of its own, holds no unterminated call. -/
theorem scan_eq_rescan (value : String) :
    scan value = rescan value ∧
      ∀ c ∈ (scan value).calls, c.span.Within value ∧ ∀ r, c.fallback = some r →
        ∃ inner, r.slice? value = some inner ∧ (scan inner).unterminatedAt = none := by
  obtain ⟨t, ht, hbytes⟩ := Layout.exists_sound (utf8 value)
  refine ⟨?_, fun c hc => ⟨within_of_mem_scan hc, fun r hr => ?_⟩⟩
  · rw [scan_eq_of_layout ht hbytes.symm, rescan_eq_of_layout ht hbytes.symm]
  · obtain ⟨inner, hinner⟩ :=
      Option.isSome_iff_exists.mp (Span.slice?_isSome_iff.mpr (within_fallback hc hr))
    refine ⟨inner, hinner, unterminatedAt_of_read? ?_⟩
    rw [Span.utf8_of_slice? hinner]
    exact (stands_of_mem_scan hc).balanced r hr

/-- A call with another one in its fallback, in front of a call that does not close. -/
theorem scan_eq_rescan_of_nested :
    ⟨⟨0, 20⟩, some ⟨7, 8⟩, some ⟨9, 19⟩⟩ ∈ (scan "VaR( --a, var(--b )) var(").calls ∧
      scan "VaR( --a, var(--b )) var(" = rescan "VaR( --a, var(--b )) var(" ∧
      ∃ inner, Span.slice? ⟨9, 19⟩ "VaR( --a, var(--b )) var(" = some inner ∧
        (scan inner).unterminatedAt = none := by
  have hmem : ⟨⟨0, 20⟩, some ⟨7, 8⟩, some ⟨9, 19⟩⟩ ∈ (scan "VaR( --a, var(--b )) var(").calls := by
    decide +kernel
  obtain ⟨hsame, hpieces⟩ := scan_eq_rescan "VaR( --a, var(--b )) var("
  exact ⟨hmem, hsame, (hpieces _ hmem).2 _ rfl⟩

end Value
end CustomProps
