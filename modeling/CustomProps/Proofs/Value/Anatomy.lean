import CustomProps.Proofs.Text.Utf8
import CustomProps.Proofs.Value.Layout
/-!
# What a call looks like and how calls lie

A call stands in its value as it was found: `var(`, a name part, and a closing parenthesis, with a
comma and a fallback between the two if it has one. Calls never cross. Of two calls the later one
lies behind the earlier one or within the fallback of it.
-/
namespace CustomProps.Value

/-! ### Name parts in a text -/

/-- The name part of a call that begins at `p` ends at `m`: a reader of name parts gets there from
behind `var(` and can go no further. -/
structure PartEnds (b : ByteArray) (p m : Nat) : Prop where
  le : p + 4 ≤ m
  lt : m < b.size
  read : Nesting.top.readPart? (between b (p + 4) m) = some .top
  mark : b[m] = Ascii.comma ∨ b[m] = Ascii.closeParen

/-- Where the name part of a call ends: at the comma in front of the fallback, or at the closing
parenthesis. -/
def partStop (span : Span) : Option Span → Nat
  | some fallback => fallback.start - 1
  | none => span.stop - 1

/-- A fallback reaches from behind the comma that ends the name part to the closing parenthesis. -/
structure FallbackStands (b : ByteArray) (span r : Span) : Prop where
  pos : 0 < r.start
  comma : ∃ h : r.start - 1 < b.size, b[r.start - 1] = Ascii.comma
  le : r.start ≤ r.stop
  stop : r.stop + 1 = span.stop

/-- The bytes at the offsets of a call are those of a call. -/
structure Call.Stands (b : ByteArray) (c : Call) : Prop where
  opening : IsOpening (between b c.span.start (c.span.start + 4))
  part : PartEnds b c.span.start (partStop c.span c.fallback)
  name : ∃ p : NamePart, p.Split ∧
    between b (c.span.start + 4) (partStop c.span c.fallback) = p.bytes ∧
      c.name = p.span? (c.span.start + 4)
  lt : partStop c.span c.fallback < c.span.stop
  closes : ∃ h : c.span.stop - 1 < b.size, b[c.span.stop - 1] = Ascii.closeParen
  fallback : ∀ r, c.fallback = some r → FallbackStands b c.span r
  balanced : ∀ r, c.fallback = some r → Nesting.top.read? (between b r.start r.stop) = some .top

section Head

variable {b : ByteArray} {stop i : Nat} {gap word rest : List UInt8} {p : NamePart}

theorem between_opening (hs : stop ≤ b.size) (hi : i ≤ stop) (hword : IsOpening word)
    (h : between b i stop = gap ++ (word ++ rest)) :
    between b (i + gap.length) (i + gap.length + 4) = word := by
  obtain ⟨hle, -, hbehind⟩ := between_eq_append hs hi h
  obtain ⟨-, hfront, -⟩ := between_eq_append hs hle hbehind
  rw [hword.length] at hfront
  exact hfront

theorem partEnds_of_head {x : UInt8} (hs : stop ≤ b.size) (hi : i ≤ stop) (hword : IsOpening word)
    (hp : p.Sound) (hx : x = Ascii.comma ∨ x = Ascii.closeParen)
    (h : between b i stop = gap ++ (word ++ (p.bytes ++ x :: rest))) :
    PartEnds b (i + gap.length) (i + gap.length + 4 + p.bytes.length) := by
  obtain ⟨hpart, -, hlt, hmark⟩ := between_head hs hi hword h
  refine ⟨Nat.le_add_right _ _, by omega, ?_, ?_⟩
  · rw [hpart]
    exact hp.closed
  · rw [hmark]
    exact hx

end Head

/-! ### How calls lie -/

/-- The call is found before the other one, which lies behind it or within its fallback. -/
structure Call.Before (c d : Call) : Prop where
  start : c.span.start < d.span.start
  apart : c.span.stop ≤ d.span.start ∨
    ∃ r, c.fallback = some r ∧ r.start ≤ d.span.start ∧ d.span.stop ≤ r.stop

namespace Layout

variable {t : Layout}

theorem bounds_of_mem_calls (ht : t.Sound) {o : Nat} {c : Call} (hc : c ∈ t.calls o) :
    o ≤ c.span.start ∧ c.span.start < c.span.stop ∧ c.span.stop ≤ o + t.bytes.length := by
  induction t generalizing o with
  | plain text => cases hc
  | cut gap word rest => cases hc
  | call gap word part after iha =>
    obtain ⟨-, hword, -, hafter⟩ := ht
    simp only [bytes, List.length_append, List.length_cons, hword.length]
    rcases List.mem_cons.mp hc with rfl | hc
    · dsimp only
      omega
    · have hlie := iha hafter hc
      omega
  | callWith gap word part fallback after ihf iha =>
    obtain ⟨-, hword, -, ⟨hfallback, -⟩, hafter⟩ := ht
    simp only [bytes, List.length_append, List.length_cons, hword.length]
    rcases List.mem_cons.mp hc with rfl | hc
    · dsimp only
      omega
    · rcases List.mem_append.mp hc with hc | hc
      · have hlie := ihf hfallback hc
        omega
      · have hlie := iha hafter hc
        omega

theorem pairwise_calls (ht : t.Sound) (o : Nat) : (t.calls o).Pairwise Call.Before := by
  induction t generalizing o with
  | plain text => exact List.Pairwise.nil
  | cut gap word rest => exact List.Pairwise.nil
  | call gap word part after iha =>
    obtain ⟨-, -, -, hafter⟩ := ht
    refine List.Pairwise.cons (fun d hd => ?_) (iha hafter _)
    have hlie := bounds_of_mem_calls hafter hd
    exact ⟨by dsimp only; omega, Or.inl hlie.1⟩
  | callWith gap word part fallback after ihf iha =>
    obtain ⟨-, -, -, ⟨hfallback, -⟩, hafter⟩ := ht
    refine List.Pairwise.cons (fun d hd => ?_)
      (List.pairwise_append.mpr ⟨ihf hfallback _, iha hafter _, fun c hc d hd => ?_⟩)
    · rcases List.mem_append.mp hd with hd | hd
      · have hlie := bounds_of_mem_calls hfallback hd
        exact ⟨by dsimp only; omega, Or.inr ⟨_, rfl, hlie.1, hlie.2.2⟩⟩
      · have hlie := bounds_of_mem_calls hafter hd
        exact ⟨by dsimp only; omega, Or.inl hlie.1⟩
    · have hfront := bounds_of_mem_calls hfallback hc
      have hlie := bounds_of_mem_calls hafter hd
      exact ⟨by omega, Or.inl (by omega)⟩

/-- The calls of a layout stand where the layout has them. -/
theorem stands_of_mem_calls {b : ByteArray} (ht : t.Sound) {i stop : Nat} (hi : i ≤ stop)
    (hs : stop ≤ b.size) (h : between b i stop = t.bytes) {c : Call} (hc : c ∈ t.calls i) :
    c.Stands b := by
  induction t generalizing i stop with
  | plain text => cases hc
  | cut gap word rest => cases hc
  | call gap word part after iha =>
    obtain ⟨-, hword, hpart, hafter⟩ := ht
    obtain ⟨hbody, hrest, hlt, hclose⟩ := between_head hs hi hword h
    rcases List.mem_cons.mp hc with rfl | hc
    · exact {
        opening := by
          rw [between_opening hs hi hword h]
          exact hword
        part := partEnds_of_head hs hi hword hpart (Or.inr rfl) h
        name := ⟨part, hpart.split, hbody, rfl⟩
        lt := Nat.lt_succ_self _
        closes := ⟨Nat.lt_of_lt_of_le hlt hs, hclose⟩
        fallback := by
          intro r hr
          cases hr
        balanced := by
          intro r hr
          cases hr }
    · exact iha hafter hlt hs hrest hc
  | callWith gap word part fallback after ihf iha =>
    obtain ⟨-, hword, hpart, ⟨hfallback, hclosed⟩, hafter⟩ := ht
    obtain ⟨hbody, hbehind, hlt, hcomma⟩ := between_head hs hi hword h
    obtain ⟨hle, hinner, hfrom⟩ := between_eq_append hs hlt hbehind
    obtain ⟨hlt', hclose, hrest⟩ := between_eq_cons hs hle hfrom
    rcases List.mem_cons.mp hc with rfl | hc
    · exact {
        opening := by
          rw [between_opening hs hi hword h]
          exact hword
        part := partEnds_of_head hs hi hword hpart (Or.inl rfl) h
        name := ⟨part, hpart.split, hbody, rfl⟩
        lt := by
          dsimp only [partStop]
          omega
        closes := ⟨Nat.lt_of_lt_of_le hlt' hs, hclose⟩
        fallback := by
          intro r hr
          obtain rfl := Option.some.inj hr
          exact ⟨Nat.succ_pos _, ⟨Nat.lt_of_lt_of_le hlt hs, hcomma⟩, Nat.le_add_right _ _, rfl⟩
        balanced := by
          intro r hr
          obtain rfl := Option.some.inj hr
          rw [hinner]
          exact hclosed }
    · rcases List.mem_append.mp hc with hc | hc
      · exact ihf hfallback (Nat.le_add_right _ _) (by omega) hinner hc
      · exact iha hafter hlt' hs hrest hc

end Layout

theorem stands_of_mem_scan {value : String} {c : Call} (hc : c ∈ (scan value).calls) :
    c.Stands value.toByteArray := by
  obtain ⟨t, ht, hbytes⟩ := Layout.exists_sound (utf8 value)
  rw [scan_eq_of_layout ht hbytes.symm] at hc
  exact Layout.stands_of_mem_calls ht (Nat.zero_le _) (Nat.le_refl _)
    ((between_all _).trans hbytes.symm) hc

theorem pairwise_scan (value : String) : (scan value).calls.Pairwise Call.Before := by
  obtain ⟨t, ht, hbytes⟩ := Layout.exists_sound (utf8 value)
  rw [scan_eq_of_layout ht hbytes.symm]
  exact Layout.pairwise_calls ht 0

/-- Of two calls of a value one comes before the other. -/
theorem eq_or_before {value : String} {c d : Call} (hc : c ∈ (scan value).calls)
    (hd : d ∈ (scan value).calls) : c = d ∨ c.Before d ∨ d.Before c := by
  obtain ⟨i, hi, rfl⟩ := List.mem_iff_getElem.mp hc
  obtain ⟨j, hj, rfl⟩ := List.mem_iff_getElem.mp hd
  have hpairs := List.pairwise_iff_getElem.mp (pairwise_scan value)
  rcases Nat.lt_trichotomy i j with hlt | rfl | hlt
  · exact Or.inr (Or.inl (hpairs i j hi hj hlt))
  · exact Or.inl rfl
  · exact Or.inr (Or.inr (hpairs j i hj hi hlt))

/-! ### References -/

/-- A reference in the bytes of its value: `var(`, blanks, two dashes, the name, blanks up to the
end of the name part, and at last the closing parenthesis. -/
structure Reference.Stands (b : ByteArray) (r : Reference) : Prop where
  opening : IsOpening (between b r.span.start (r.span.start + 4))
  closes : ∃ h : r.span.stop - 1 < b.size, b[r.span.stop - 1] = Ascii.closeParen
  start_le : r.span.start + 6 ≤ r.name.start
  nonempty : r.name.start < r.name.stop
  stop_le : r.name.stop ≤ partStop r.span r.fallback
  lt : partStop r.span r.fallback < r.span.stop
  dashes : between b (r.name.start - 2) r.name.start = dashes
  lead : Blank (between b (r.span.start + 4) (r.name.start - 2))
  trail : Blank (between b r.name.stop (partStop r.span r.fallback))
  fallback : ∀ s, r.fallback = some s → FallbackStands b r.span s

theorem Call.reference?_eq_some_iff {c : Call} {r : Reference} :
    c.reference? = some r ↔ c.span = r.span ∧ c.name = some r.name ∧ c.fallback = r.fallback := by
  obtain ⟨span, name, fallback⟩ := c
  obtain ⟨span', name', fallback'⟩ := r
  simp only [reference?, Option.map_eq_some_iff, Reference.mk.injEq]
  constructor
  · rintro ⟨n, hn, hspan, rfl, hfallback⟩
    exact ⟨hspan, hn, hfallback⟩
  · rintro ⟨hspan, hn, hfallback⟩
    exact ⟨_, hn, hspan, rfl, hfallback⟩

theorem Call.Stands.reference {b : ByteArray} {c : Call} {r : Reference} (h : c.Stands b)
    (hr : c.reference? = some r) : r.Stands b := by
  obtain ⟨hspan, hname, hfallback⟩ := reference?_eq_some_iff.mp hr
  obtain ⟨hopening, hpart, ⟨p, hsplit, hbytes, hat⟩, hlt, hcloses, hrest, -⟩ := h
  rw [hspan] at hopening hpart hbytes hat hlt hcloses hrest
  rw [hfallback] at hpart hbytes hlt hrest
  cases p with
  | nameless text =>
    rw [hname] at hat
    cases hat
  | named lead name trail =>
    obtain ⟨hlead, ⟨m, x, rfl, -⟩, htrail⟩ := hsplit
    rw [hname, NamePart.span?, Option.some.injEq] at hat
    have hk := Nat.le_of_lt hpart.lt
    obtain ⟨hle₁, hfront, h₁⟩ := between_eq_append hk hpart.le hbytes
    obtain ⟨hle₂, hdashes, h₂⟩ := between_eq_append hk hle₁ h₁
    obtain ⟨hle₃, -, h₃⟩ := between_eq_append hk hle₂ h₂
    have hlen : dashes.length = 2 := rfl
    rw [hlen] at hle₂ hle₃ hdashes h₂ h₃
    have hsub : r.span.start + 4 + lead.length + 2 - 2 = r.span.start + 4 + lead.length :=
      Nat.add_sub_cancel _ _
    simp only [List.length_append, List.length_singleton] at hat hle₃ h₃
    refine ⟨hopening, hcloses, ?_, ?_, ?_, hlt, ?_, ?_, ?_, hrest⟩
    all_goals rw [hat]
    all_goals dsimp only
    · omega
    · omega
    · exact hle₃
    · rw [hsub]
      exact hdashes
    · rw [hsub, hfront]
      exact hlead
    · rw [h₃]
      exact htrail

/-- The reference is found before the other one: its name ends before the other name, and the other
call lies behind it or within its fallback. -/
structure Reference.Before (r s : Reference) : Prop where
  start : r.span.start < s.span.start
  name : r.name.stop ≤ s.name.start
  apart : r.span.stop ≤ s.span.start ∨
    ∃ f, r.fallback = some f ∧ f.start ≤ s.span.start ∧ s.span.stop ≤ f.stop

theorem Call.Before.reference {b : ByteArray} {c d : Call} {r s : Reference} (h : c.Before d)
    (hc : c.Stands b) (hd : d.Stands b) (hr : c.reference? = some r) (hs : d.reference? = some s) :
    r.Before s := by
  have hfirst := hc.reference hr
  have hsecond := hd.reference hs
  obtain ⟨hspan, -, hfallback⟩ := reference?_eq_some_iff.mp hr
  obtain ⟨hspan', -, -⟩ := reference?_eq_some_iff.mp hs
  obtain ⟨hstart, hapart⟩ := h
  rw [hspan, hspan'] at hstart hapart
  rw [hfallback] at hapart
  refine ⟨hstart, ?_, hapart⟩
  have hstop := hfirst.stop_le
  have hlt := hfirst.lt
  have hname := hsecond.start_le
  rcases hapart with hbehind | ⟨f, hf, hwithin, -⟩
  · omega
  · have hpos := (hfirst.fallback f hf).pos
    rw [hf, partStop] at hstop
    omega

/-- Every reference of a value stands in its bytes as it was found, and of two references the later
one lies behind the earlier one or within its fallback, with its name behind the other name. -/
theorem laminar_references (value : String) :
    (∀ r ∈ (scan value).references, r.Stands value.toByteArray) ∧
      (scan value).references.Pairwise Reference.Before := by
  constructor
  · intro r hr
    obtain ⟨c, hc, hcr⟩ := List.mem_filterMap.mp hr
    exact (stands_of_mem_scan hc).reference hcr
  · refine List.pairwise_filterMap.mpr
      ((pairwise_scan value).imp_of_mem fun hc hd hcd r hr s hs => ?_)
    exact hcd.reference (stands_of_mem_scan hc) (stands_of_mem_scan hd) hr hs

/-- The fallback of one reference is another one, and a third stands behind both. -/
theorem laminar_references_of_nested :
    (scan "var(--a, var( --b )) VAR(--c)").references =
        [⟨⟨0, 20⟩, ⟨6, 7⟩, some ⟨8, 19⟩⟩, ⟨⟨9, 19⟩, ⟨16, 17⟩, none⟩, ⟨⟨21, 29⟩, ⟨27, 28⟩, none⟩] ∧
      (∀ r ∈ (scan "var(--a, var( --b )) VAR(--c)").references,
        r.Stands "var(--a, var( --b )) VAR(--c)".toByteArray) ∧
      (scan "var(--a, var( --b )) VAR(--c)").references.Pairwise Reference.Before :=
  ⟨by decide +kernel, laminar_references _⟩

end CustomProps.Value
