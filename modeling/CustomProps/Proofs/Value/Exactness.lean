import CustomProps.Proofs.Value.Anatomy
import Mathlib.Data.List.DropRight
import Mathlib.Data.List.Nodup
/-!
# Which sites are found

One pass over a value, from its first byte to its last, tells its sites. The search reads the value
in pieces, from many places and up to many bounds, and still finds every site in front of an
unterminated call that could be a reference: all but those that stand in the name part of another
site, and those whose own name part names nothing.
-/
namespace CustomProps.Value

/-! ### Sites of a layout -/

/-- The sites of a gap, a word and some more: the word is the first one. -/
theorem Site.of_gap {gap word part : List UInt8} {n : Nat} (hgap : Gap gap) (hword : IsOpening word)
    (h : Site (gap ++ (word ++ part)) n) : n = gap.length ∨ gap.length + 4 ≤ n := by
  obtain ⟨hsite, hfirst⟩ := first_site (m := part) hgap.noSite hgap.closed hgap.begins hword
  rcases Nat.lt_trichotomy n gap.length with hlt | heq | hgt
  · exact absurd h (hfirst n hlt)
  · exact Or.inl heq
  · exact Or.inr (hsite.add_four_le_of_lt h hgt)

namespace Layout

variable {t : Layout} {o n : Nat}

/-- Up to the byte behind its name part, a call closes its strings. -/
theorem after_head {gap word : List UInt8} {part : NamePart} (hgap : Gap gap)
    (hword : IsOpening word) (hpart : part.Sound) :
    Quoting.outside.after (gap ++ (word ++ part.bytes)) = .outside := by
  rw [Quoting.after_append, hgap.closed, Quoting.after_append, after_opening hword]
  exact Nesting.after_of_read? (Nesting.read?_of_readPart? hpart.closed)

theorem length_head {gap word part : List UInt8} (hword : IsOpening word) :
    (gap ++ (word ++ part)).length = gap.length + 4 + part.length := by
  rw [List.length_append, List.length_append, hword.length, Nat.add_assoc]

/-- The sites of a call are its own beginning, those of its name part, and those behind that. -/
theorem site_head_iff {gap word rest : List UInt8} {part : NamePart} {x : UInt8} (hgap : Gap gap)
    (hword : IsOpening word) (hpart : part.Sound) (hx : x = Ascii.comma ∨ x = Ascii.closeParen) :
    Site (gap ++ (word ++ (part.bytes ++ x :: rest))) n ↔
      Site (gap ++ (word ++ part.bytes)) n ∨
        ∃ m, n = gap.length + 4 + part.bytes.length + 1 + m ∧ Site rest m := by
  have hparts : Site ((gap ++ (word ++ part.bytes)) ++ x :: rest) n ↔ _ :=
    Site.append_mark_iff (after_head hgap hword hpart) hx
  rw [length_head hword, List.append_assoc, List.append_assoc] at hparts
  exact hparts

/-- The sites of a fallback and of what follows it. -/
theorem site_fallback_iff {inner rest : List UInt8} (h : Nesting.top.read? inner = some .top) :
    Site (inner ++ Ascii.closeParen :: rest) n ↔
      Site inner n ∨ ∃ m, n = inner.length + 1 + m ∧ Site rest m :=
  Site.append_mark_iff (Nesting.after_of_read? h) (Or.inr rfl)

/-- A site in front of the open end is where a call begins, or stands in the name part of one. -/
theorem exists_mem_calls_of_site (ht : t.Sound) (hn : Site t.bytes n)
    (hcut : ∀ u, t.cutAt? o = some u → o + n < u) :
    ∃ c ∈ t.calls o, o + n = c.span.start ∨
      c.span.start + 4 ≤ o + n ∧ o + n < partStop c.span c.fallback := by
  induction t generalizing o n with
  | plain text => exact absurd hn (ht n)
  | cut gap word rest =>
    obtain ⟨hgap, hword, -⟩ := ht
    have hlt := hcut _ rfl
    rcases hn.of_gap hgap hword with heq | hle
    · omega
    · omega
  | call gap word part after iha =>
    obtain ⟨hgap, hword, hpart, hafter⟩ := ht
    rcases (site_head_iff hgap hword hpart (Or.inr rfl)).mp hn with hn | ⟨m, rfl, hm⟩
    · refine ⟨_, List.mem_cons_self .., ?_⟩
      have hle := hn.add_four_le
      rw [length_head hword] at hle
      dsimp only [partStop]
      rcases hn.of_gap hgap hword with heq | hge
      · exact Or.inl (by omega)
      · exact Or.inr (by omega)
    · have hoff : o + (gap.length + 4 + part.bytes.length + 1 + m) =
          o + gap.length + 4 + part.bytes.length + 1 + m := by omega
      rw [hoff] at hcut ⊢
      obtain ⟨c, hc, hat⟩ := iha hafter hm hcut
      exact ⟨c, List.mem_cons_of_mem _ hc, hat⟩
  | callWith gap word part fallback after ihf iha =>
    obtain ⟨hgap, hword, hpart, ⟨hfallback, hclosed⟩, hafter⟩ := ht
    rcases (site_head_iff hgap hword hpart (Or.inl rfl)).mp hn with hn | ⟨m, rfl, hm⟩
    · refine ⟨_, List.mem_cons_self .., ?_⟩
      have hle := hn.add_four_le
      rw [length_head hword] at hle
      dsimp only [partStop]
      rcases hn.of_gap hgap hword with heq | hge
      · exact Or.inl (by omega)
      · exact Or.inr (by omega)
    · have hopen := cutAt?_eq_none_of_read? hfallback hclosed
        (o + gap.length + 4 + part.bytes.length + 1)
      rcases (site_fallback_iff hclosed).mp hm with hin | ⟨k, rfl, hbehind⟩
      · have hoff : o + (gap.length + 4 + part.bytes.length + 1 + m) =
            o + gap.length + 4 + part.bytes.length + 1 + m := by omega
        rw [hoff]
        obtain ⟨c, hc, hat⟩ := ihf hfallback hin fun u hu => by
          rw [hopen] at hu
          cases hu
        exact ⟨c, List.mem_cons_of_mem _ (List.mem_append_left _ hc), hat⟩
      · have hoff : o + (gap.length + 4 + part.bytes.length + 1 + (fallback.bytes.length + 1 + k)) =
            o + gap.length + 4 + part.bytes.length + 1 + fallback.bytes.length + 1 + k := by omega
        rw [hoff] at hcut ⊢
        obtain ⟨c, hc, hat⟩ := iha hafter hbehind hcut
        exact ⟨c, List.mem_cons_of_mem _ (List.mem_append_right _ hc), hat⟩

theorem site_of_gap {gap word rest : List UInt8} (hgap : Gap gap) (hword : IsOpening word) :
    Site (gap ++ (word ++ rest)) gap.length :=
  (first_site hgap.noSite hgap.closed hgap.begins hword).1

/-- Every call of a layout begins at a site. -/
theorem site_of_mem_calls (ht : t.Sound) {c : Call} (hc : c ∈ t.calls o) :
    ∃ n, c.span.start = o + n ∧ Site t.bytes n := by
  induction t generalizing o with
  | plain text => cases hc
  | cut gap word rest => cases hc
  | call gap word part after iha =>
    obtain ⟨hgap, hword, hpart, hafter⟩ := ht
    rcases List.mem_cons.mp hc with rfl | hc
    · exact ⟨gap.length, rfl, site_of_gap hgap hword⟩
    · obtain ⟨m, hm, hsite⟩ := iha hafter hc
      exact ⟨gap.length + 4 + part.bytes.length + 1 + m, by omega,
        (site_head_iff hgap hword hpart (Or.inr rfl)).mpr (Or.inr ⟨m, rfl, hsite⟩)⟩
  | callWith gap word part fallback after ihf iha =>
    obtain ⟨hgap, hword, hpart, ⟨hfallback, hclosed⟩, hafter⟩ := ht
    have hbehind : ∀ m, Site (fallback.bytes ++ Ascii.closeParen :: after.bytes) m →
        Site (callWith gap word part fallback after).bytes
          (gap.length + 4 + part.bytes.length + 1 + m) := fun m hm =>
      (site_head_iff hgap hword hpart (Or.inl rfl)).mpr (Or.inr ⟨m, rfl, hm⟩)
    rcases List.mem_cons.mp hc with rfl | hc
    · exact ⟨gap.length, rfl, site_of_gap hgap hword⟩
    · rcases List.mem_append.mp hc with hc | hc
      · obtain ⟨m, hm, hsite⟩ := ihf hfallback hc
        exact ⟨_, by omega, hbehind m ((site_fallback_iff hclosed).mpr (Or.inl hsite))⟩
      · obtain ⟨m, hm, hsite⟩ := iha hafter hc
        exact ⟨_, by omega,
          hbehind _ ((site_fallback_iff hclosed).mpr (Or.inr ⟨m, rfl, hsite⟩))⟩

/-- The call that does not close begins at a site, behind all the others. -/
theorem site_of_cutAt? (ht : t.Sound) {u : Nat} (hu : t.cutAt? o = some u) :
    (∃ n, u = o + n ∧ Site t.bytes n) ∧ ∀ c ∈ t.calls o, c.span.stop ≤ u := by
  induction t generalizing o with
  | plain text => cases hu
  | cut gap word rest =>
    obtain ⟨hgap, hword, -⟩ := ht
    obtain rfl := Option.some.inj hu
    refine ⟨⟨gap.length, rfl, site_of_gap hgap hword⟩, fun c hc => ?_⟩
    cases hc
  | call gap word part after iha =>
    obtain ⟨hgap, hword, hpart, hafter⟩ := ht
    obtain ⟨⟨m, rfl, hsite⟩, hcalls⟩ := iha hafter hu
    refine ⟨⟨gap.length + 4 + part.bytes.length + 1 + m, by omega,
      (site_head_iff hgap hword hpart (Or.inr rfl)).mpr (Or.inr ⟨m, rfl, hsite⟩)⟩, fun c hc => ?_⟩
    rcases List.mem_cons.mp hc with rfl | hc
    · exact Nat.le_add_right _ _
    · exact hcalls c hc
  | callWith gap word part fallback after ihf iha =>
    obtain ⟨hgap, hword, hpart, ⟨hfallback, hclosed⟩, hafter⟩ := ht
    obtain ⟨⟨m, rfl, hsite⟩, hcalls⟩ := iha hafter hu
    refine ⟨⟨gap.length + 4 + part.bytes.length + 1 + (fallback.bytes.length + 1 + m), by omega,
      (site_head_iff hgap hword hpart (Or.inl rfl)).mpr (Or.inr ⟨_, rfl,
        (site_fallback_iff hclosed).mpr (Or.inr ⟨m, rfl, hsite⟩)⟩)⟩, fun c hc => ?_⟩
    rcases List.mem_cons.mp hc with rfl | hc
    · exact Nat.le_add_right _ _
    · rcases List.mem_append.mp hc with hc | hc
      · have hlie := bounds_of_mem_calls hfallback hc
        omega
      · exact hcalls c hc

end Layout

/-! ### Sites of a value -/

section Scanned

variable {value : String} {c d : Call} {i u : Nat}

theorem site_of_mem_scan (hc : c ∈ (scan value).calls) : Site (utf8 value) c.span.start := by
  obtain ⟨t, ht, hbytes⟩ := Layout.exists_sound (utf8 value)
  rw [scan_eq_of_layout ht hbytes.symm] at hc
  obtain ⟨n, hn, hsite⟩ := Layout.site_of_mem_calls ht hc
  rw [hn, Nat.zero_add, ← hbytes]
  exact hsite

theorem site_of_unterminatedAt (hu : (scan value).unterminatedAt = some u) :
    Site (utf8 value) u := by
  obtain ⟨t, ht, hbytes⟩ := Layout.exists_sound (utf8 value)
  rw [scan_eq_of_layout ht hbytes.symm] at hu
  obtain ⟨⟨n, hn, hsite⟩, -⟩ := Layout.site_of_cutAt? ht hu
  rw [hn, Nat.zero_add, ← hbytes]
  exact hsite

theorem stop_le_unterminatedAt (hu : (scan value).unterminatedAt = some u)
    (hc : c ∈ (scan value).calls) : c.span.stop ≤ u := by
  obtain ⟨t, ht, hbytes⟩ := Layout.exists_sound (utf8 value)
  rw [scan_eq_of_layout ht hbytes.symm] at hu hc
  exact (Layout.site_of_cutAt? ht hu).2 c hc

theorem exists_mem_scan_of_site (hi : Site (utf8 value) i)
    (hcut : ∀ u, (scan value).unterminatedAt = some u → i < u) :
    ∃ c ∈ (scan value).calls, i = c.span.start ∨
      c.span.start + 4 ≤ i ∧ i < partStop c.span c.fallback := by
  obtain ⟨t, ht, hbytes⟩ := Layout.exists_sound (utf8 value)
  rw [scan_eq_of_layout ht hbytes.symm] at hcut ⊢
  rw [← hbytes] at hi
  obtain ⟨c, hc, hat⟩ := Layout.exists_mem_calls_of_site (o := 0) ht hi (by simpa using hcut)
  rw [Nat.zero_add] at hat
  exact ⟨c, hc, hat⟩

/-- No call begins in the name part of a call. -/
theorem not_in_part (hc : c ∈ (scan value).calls) (hd : d ∈ (scan value).calls) :
    ¬(d.span.start + 4 ≤ c.span.start ∧ c.span.start < partStop d.span d.fallback) := by
  rintro ⟨hle, hlt⟩
  rcases eq_or_before hc hd with rfl | hbefore | hbefore
  · omega
  · have hstart := hbefore.start
    omega
  · have hstands := stands_of_mem_scan hd
    rcases hbefore.apart with hbehind | ⟨r, hr, hwithin, -⟩
    · have hstop := hstands.lt
      omega
    · have hpos := (hstands.fallback r hr).pos
      rw [hr, partStop] at hlt
      omega

end Scanned

/-! ### Name parts within name parts -/

namespace Site

variable {b : ByteArray} {p q : Nat}

theorem isOpening_between (h : Site b.data.toList p) : IsOpening (between b p (p + 4)) := by
  have hword := h.opening
  rwa [between_eq_take_drop, Nat.add_sub_cancel_left]

theorem after_before (h : Site b.data.toList p) :
    Quoting.outside.after (between b 0 p) = .outside := by
  have ho := h.outside
  rwa [between_eq_take_drop, Nat.sub_zero, List.drop_zero]

/-- Between two sites all strings are closed. -/
theorem after_between (hp : Site b.data.toList p) (hq : Site b.data.toList q) (hpq : p + 4 ≤ q) :
    Quoting.outside.after (between b (p + 4) q) = .outside := by
  have hall := hq.after_before
  rwa [← between_append (Nat.zero_le p) (show p ≤ q by omega),
    ← between_append (Nat.le_add_right p 4) hpq, Quoting.after_append, Quoting.after_append,
    hp.after_before, Layout.after_opening hp.isOpening_between] at hall

end Site

namespace PartEnds

variable {b : ByteArray} {p q m m' : Nat}

theorem not_lt (h : PartEnds b p m) (h' : PartEnds b p m') : ¬m < m' := by
  intro hlt
  have hm := h.lt
  have hm' := h'.lt
  have hread := h'.read
  rw [← between_append h.le (Nat.le_of_lt hlt), between_of_lt hlt (by omega),
    Nesting.readPart?_append, h.read, Option.bind_some, Nesting.readPart?_cons] at hread
  have hstuck : Nesting.top.nextPart? b[m] = none := by
    rcases h.mark with hx | hx
    all_goals
      rw [hx]
      rfl
  rw [hstuck] at hread
  cases hread

theorem eq (h : PartEnds b p m) (h' : PartEnds b p m') : m = m' :=
  Nat.le_antisymm (Nat.le_of_not_lt (h'.not_lt h)) (Nat.le_of_not_lt (h.not_lt h'))

/-- A site that begins in a name part lies in it with all its bytes. -/
theorem add_four_le_of_site (h : PartEnds b p m) (hq : Site b.data.toList q) (hqm : q < m) :
    q + 4 ≤ m := by
  have hm := h.lt
  have hmark : b.data.toList[m]? = some b[m] := List.getElem?_eq_getElem (l := b.data.toList) hm
  refine Nat.le_of_not_lt fun hover => ?_
  obtain ⟨hcomma, hclose⟩ := hq.not_mark (Nat.le_of_lt hqm) hover hmark
  rcases h.mark with hx | hx
  · exact hcomma hx
  · exact hclose hx

/-- The name part of a site that stands in a name part ends in it. -/
theorem le_of_site (h : PartEnds b p m) (hp : Site b.data.toList p) (hq : Site b.data.toList q)
    (hpq : p + 4 ≤ q) (hqm : q < m) (h' : PartEnds b q m') : m' ≤ m := by
  refine Nat.le_of_not_lt fun hlt => ?_
  have hm' := h'.lt
  have hle := h.add_four_le_of_site hq hqm
  -- from behind the outer `var(` to the inner one, over it, and on to the end of the outer part
  have hread := Nesting.read?_of_readPart? h.read
  rw [← between_append hpq (Nat.le_of_lt hqm), ← between_append (Nat.le_add_right q 4) hle,
    Nesting.read?_append] at hread
  obtain ⟨⟨s, e⟩, hfront, hrest⟩ := Option.bind_eq_some_iff.mp hread
  have hstate : s = .outside := (Nesting.quoting_of_read? hfront).trans (hp.after_between hq hpq)
  rw [hstate, Nesting.read?_append, Layout.read?_opening hq.isOpening_between,
    Option.bind_some] at hrest
  -- the inner part goes on behind that end, so it is at its own depth or deeper there
  have hinner := Nesting.read?_of_readPart? h'.read
  rw [← between_append hle (Nat.le_of_lt hlt), Nesting.read?_append] at hinner
  obtain ⟨⟨s', e'⟩, hpart, -⟩ := Option.bind_eq_some_iff.mp hinner
  have hdeep := Nesting.read?_add_depth hpart (e + 1)
  simp only [Nesting.top, Nat.zero_add] at hdeep hrest
  rw [hdeep] at hrest
  simp only [Option.some.injEq, Nesting.mk.injEq] at hrest
  omega

end PartEnds

/-- No call begins in the name part of a site. -/
theorem not_in_part_of_site {value : String} {c : Call} {p m : Nat} (hc : c ∈ (scan value).calls)
    (hp : Site (utf8 value) p) (hm : PartEnds value.toByteArray p m) :
    ¬(p + 4 ≤ c.span.start ∧ c.span.start < m) := by
  rintro ⟨hle, hlt⟩
  have hcut : ∀ u, (scan value).unterminatedAt = some u → p < u := by
    intro u hu
    have hstop := stop_le_unterminatedAt hu hc
    have hpart := (stands_of_mem_scan hc).part.le
    have hclose := (stands_of_mem_scan hc).lt
    omega
  obtain ⟨d, hd, rfl | ⟨hpd, hdp⟩⟩ := exists_mem_scan_of_site hp hcut
  · rw [hm.eq (stands_of_mem_scan hd).part] at hlt
    exact not_in_part hc hd ⟨hle, hlt⟩
  · have hend := (stands_of_mem_scan hd).part.le_of_site (site_of_mem_scan hd) hp hpd hdp hm
    exact not_in_part hc hd ⟨by omega, by omega⟩

/-! ### What is found -/

/-- The text without the blanks around it. -/
def trim (l : List UInt8) : List UInt8 := (l.dropWhile Ascii.isSpace).rdropWhile Ascii.isSpace

/-- A name part names a custom property: two dashes and at least one more byte. -/
def Names (l : List UInt8) : Prop := ∃ name, name ≠ [] ∧ trim l = dashes ++ name

theorem not_names_of_split {text : List UInt8} (h : (NamePart.nameless text).Split) :
    ¬Names text := by
  rintro ⟨name, hname, htrim⟩
  refine h (text.takeWhile Ascii.isSpace) name
    ((text.dropWhile Ascii.isSpace).rtakeWhile Ascii.isSpace) ?_ ?_ ?_ ?_
  · exact fun x hx => List.mem_takeWhile_imp hx
  · have hne : trim text ≠ [] := by
      rw [htrim]
      simp [dashes]
    have hlast : ¬Ascii.isSpace ((trim text).getLast hne) = true :=
      List.rdropWhile_last_not Ascii.isSpace (text.dropWhile Ascii.isSpace) hne
    refine ⟨name.dropLast, name.getLast hname, (List.dropLast_append_getLast hname).symm, ?_⟩
    have hsame : (trim text).getLast hne = name.getLast hname := by
      simp only [htrim]
      exact List.getLast_append_of_ne_nil _ hname
    rw [hsame] at hlast
    exact Bool.eq_false_iff.mpr hlast
  · exact fun x hx => List.mem_rtakeWhile_imp hx
  · rw [← List.append_assoc dashes, ← htrim, trim, List.rdropWhile_append_rtakeWhile,
      List.takeWhile_append_dropWhile]

/-- The offset is in the name part of a call that begins before it. -/
def InNamePart (value : String) (i : Nat) : Prop :=
  ∃ p m, Site (utf8 value) p ∧ PartEnds value.toByteArray p m ∧ p + 4 ≤ i ∧ i < m

/-- The name part of the call that begins at the offset names nothing. -/
def NamesNothing (value : String) (i : Nat) : Prop :=
  ∃ m, PartEnds value.toByteArray i m ∧ ¬Names (between value.toByteArray (i + 4) m)

theorem not_inNamePart {value : String} {c : Call} (hc : c ∈ (scan value).calls) :
    ¬InNamePart value c.span.start := by
  rintro ⟨p, m, hp, hm, hle, hlt⟩
  exact not_in_part_of_site hc hp hm ⟨hle, hlt⟩

theorem namesNothing_of_mem_scan {value : String} {c : Call} (hc : c ∈ (scan value).calls)
    (hname : c.reference? = none) : NamesNothing value c.span.start := by
  obtain ⟨p, hsplit, hbytes, hat⟩ := (stands_of_mem_scan hc).name
  refine ⟨_, (stands_of_mem_scan hc).part, ?_⟩
  rw [hbytes]
  have hnone := Option.map_eq_none_iff.mp hname
  cases p with
  | named lead name trail =>
    rw [hnone] at hat
    cases hat
  | nameless text => exact not_names_of_split hsplit

theorem exists_mem_calls {value : String} {r : Reference} (hr : r ∈ (scan value).references) :
    ∃ c ∈ (scan value).calls, c.reference? = some r ∧ c.span.start = r.span.start := by
  obtain ⟨c, hc, hcr⟩ := List.mem_filterMap.mp hr
  exact ⟨c, hc, hcr, congrArg Span.start (Call.reference?_eq_some_iff.mp hcr).1⟩

/-- The references of a value and its unterminated call begin at sites, no two of them at the same
one. A site, in front of the unterminated call if there is one, is where exactly one reference
begins, or it is in the name part of an earlier site, or neither and its own name part names
nothing. -/
theorem sites_of_scan (value : String) :
    (∀ r ∈ (scan value).references, Site (utf8 value) r.span.start) ∧
      (∀ u, (scan value).unterminatedAt = some u → Site (utf8 value) u) ∧
      ((scan value).references.map (·.span.start) ++ (scan value).unterminatedAt.toList).Nodup ∧
      ∀ i, Site (utf8 value) i → (∀ u, (scan value).unterminatedAt = some u → i < u) →
        ((scan value).references.map (·.span.start)).count i = 1 ∧ ¬InNamePart value i ∨
        ((scan value).references.map (·.span.start)).count i = 0 ∧ InNamePart value i ∨
        ((scan value).references.map (·.span.start)).count i = 0 ∧ ¬InNamePart value i ∧
          NamesNothing value i := by
  have hrising : ((scan value).references.map (·.span.start)).Pairwise (· < ·) :=
    List.pairwise_map.mpr ((laminar_references value).2.imp fun h => h.start)
  have hnodup := hrising.imp fun {a b} (h : a < b) => Nat.ne_of_lt h
  refine ⟨fun r hr => ?_, fun u hu => site_of_unterminatedAt hu, ?_, fun i hi hcut => ?_⟩
  · obtain ⟨c, hc, -, hstart⟩ := exists_mem_calls hr
    rw [← hstart]
    exact site_of_mem_scan hc
  · refine List.nodup_append.mpr ⟨hnodup, by cases (scan value).unterminatedAt <;> simp, ?_⟩
    intro a ha u hu hau
    obtain ⟨r, hr, rfl⟩ := List.mem_map.mp ha
    obtain ⟨c, hc, -, hstart⟩ := exists_mem_calls hr
    have hstop := stop_le_unterminatedAt (Option.mem_toList.mp hu) hc
    have hpart := (stands_of_mem_scan hc).part.le
    have hlt := (stands_of_mem_scan hc).lt
    omega
  · obtain ⟨c, hc, rfl | ⟨hle, hlt⟩⟩ := exists_mem_scan_of_site hi hcut
    · cases hname : c.reference? with
      | some r =>
        refine Or.inl ⟨List.count_eq_one_of_mem hnodup ?_, not_inNamePart hc⟩
        refine List.mem_map.mpr ⟨r, List.mem_filterMap.mpr ⟨c, hc, hname⟩, ?_⟩
        exact (congrArg Span.start (Call.reference?_eq_some_iff.mp hname).1).symm
      | none =>
        refine Or.inr (Or.inr ⟨List.count_eq_zero.mpr fun hmem => ?_, not_inNamePart hc,
          namesNothing_of_mem_scan hc hname⟩)
        obtain ⟨r, hr, hstart⟩ := List.mem_map.mp hmem
        obtain ⟨d, hd, hdr, hstart'⟩ := exists_mem_calls hr
        rcases eq_or_before hc hd with rfl | hbefore | hbefore
        · rw [hname] at hdr
          cases hdr
        · have hlt := hbefore.start
          omega
        · have hlt := hbefore.start
          omega
    · have hin : InNamePart value i :=
        ⟨c.span.start, _, site_of_mem_scan hc, (stands_of_mem_scan hc).part, hle, hlt⟩
      refine Or.inr (Or.inl ⟨List.count_eq_zero.mpr fun hmem => ?_, hin⟩)
      obtain ⟨r, hr, rfl⟩ := List.mem_map.mp hmem
      obtain ⟨d, hd, -, hstart⟩ := exists_mem_calls hr
      rw [← hstart] at hin
      exact not_inNamePart hd hin

/-- In `var(x var(--a), var(--b))` the second site stands in the name part of the first. -/
theorem sites_of_scan_in_part :
    Site (utf8 "var(x var(--a), var(--b))") 6 ∧
      (scan "var(x var(--a), var(--b))").unterminatedAt = none ∧
      (((scan "var(x var(--a), var(--b))").references.map (·.span.start)).count 6 = 1 ∧
          ¬InNamePart "var(x var(--a), var(--b))" 6 ∨
        ((scan "var(x var(--a), var(--b))").references.map (·.span.start)).count 6 = 0 ∧
          InNamePart "var(x var(--a), var(--b))" 6 ∨
        ((scan "var(x var(--a), var(--b))").references.map (·.span.start)).count 6 = 0 ∧
          ¬InNamePart "var(x var(--a), var(--b))" 6 ∧
            NamesNothing "var(x var(--a), var(--b))" 6) := by
  have hsite : Site (utf8 "var(x var(--a), var(--b))") 6 := by
    refine ⟨?_, ?_, ?_⟩
    all_goals decide +kernel
  have hnone : (scan "var(x var(--a), var(--b))").unterminatedAt = none := by decide +kernel
  refine ⟨hsite, hnone, (sites_of_scan _).2.2.2 6 hsite fun u hu => ?_⟩
  rw [hnone] at hu
  cases hu

end CustomProps.Value
