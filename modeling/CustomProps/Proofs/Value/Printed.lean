import CustomProps.Proofs.Text.Slices
import CustomProps.Proofs.Value.Items
/-!
# Printing a value and scanning it

The print of a tree has a layout that follows the tree: what stands between two calls, groups and
their parentheses included, is the gap in front of the second one. The calls of that layout are the
calls of the tree.
-/
namespace CustomProps.Value

theorem utf8_openParen : utf8 "(" = [Ascii.openParen] := by decide

theorem utf8_closeParen : utf8 ")" = [Ascii.closeParen] := by decide

theorem utf8_comma : utf8 "," = [Ascii.comma] := by decide

theorem CallHead.read?_print (h : CallHead) (d : Nat) :
    Nesting.read? ⟨.outside, d⟩ (utf8 h.print) = some ⟨.outside, d + 1⟩ := by
  have hpart := Layout.read?_of_top (Nesting.read?_of_readPart? h.part_sound.closed) (d + 1)
  rw [h.utf8_print, Nesting.read?_append, Layout.read?_opening h.isOpening]
  exact hpart

namespace Items

theorem read?_print (items : Items) (d : Nat) :
    Nesting.read? ⟨.outside, d⟩ (utf8 items.print) = some ⟨.outside, d⟩ := by
  induction items generalizing d with
  | nil => rfl
  | text t rest ih =>
    rw [print, utf8_append, Nesting.read?_append,
      Nesting.read?_of_forall d fun x hx => t.marks_of_mem hx]
    exact ih d
  | quoted t rest ih =>
    rw [print, utf8_append, Nesting.read?_append, t.isString.read?]
    exact ih d
  | group inner rest ihi ihr =>
    simp only [print, utf8_append, utf8_openParen, utf8_closeParen, List.singleton_append,
      Nesting.read?_cons, Nesting.read?_append, Nesting.next?_openParen, Option.bind_some, ihi,
      Nesting.next?_closeParen_succ, ihr]
  | call head rest ih =>
    simp only [print, utf8_append, utf8_closeParen, List.singleton_append, Nesting.read?_append,
      head.read?_print, Option.bind_some, Nesting.read?_cons, Nesting.next?_closeParen_succ, ih]
  | callWith head fallback rest ihf ihr =>
    have hcomma : Nesting.next? ⟨.outside, d + 1⟩ Ascii.comma = some ⟨.outside, d + 1⟩ := by
      rw [Nesting.next?_outside (by decide) (by decide)]
      rfl
    simp only [print, utf8_append, utf8_comma, utf8_closeParen, List.singleton_append,
      Nesting.read?_append, head.read?_print, Option.bind_some, Nesting.read?_cons, hcomma, ihf,
      Nesting.next?_closeParen_succ, ihr]

/-! ### The layout of a printed tree -/

/-- The layout of a tree behind `gap`, going on as `next` says behind the gap that the tree leaves. -/
def layout : Items → (gap : List UInt8) → (next : List UInt8 → Layout) → Layout
  | nil, gap, next => next gap
  | text t rest, gap, next => rest.layout (gap ++ utf8 t.text) next
  | quoted t rest, gap, next => rest.layout (gap ++ utf8 t.print) next
  | group inner rest, gap, next =>
    inner.layout (gap ++ [Ascii.openParen]) fun gap => rest.layout (gap ++ [Ascii.closeParen]) next
  | call head rest, gap, next => .call gap head.opening head.part (rest.layout [] next)
  | callWith head fallback rest, gap, next =>
    .callWith gap head.opening head.part (fallback.layout [] .plain) (rest.layout [] next)

theorem bytes_layout (items : Items) {gap m : List UInt8} {next : List UInt8 → Layout}
    (hnext : ∀ g, (next g).bytes = g ++ m) :
    (items.layout gap next).bytes = gap ++ (utf8 items.print ++ m) := by
  induction items generalizing gap m next with
  | nil => exact hnext gap
  | text t rest ih =>
    rw [layout, ih hnext, print, utf8_append]
    simp only [List.append_assoc]
  | quoted t rest ih =>
    rw [layout, ih hnext, print, utf8_append]
    simp only [List.append_assoc]
  | group inner rest ihi ihr =>
    have hrest : ∀ g, (rest.layout (g ++ [Ascii.closeParen]) next).bytes =
        g ++ (Ascii.closeParen :: (utf8 rest.print ++ m)) := by
      intro g
      rw [ihr hnext, List.append_assoc]
      rfl
    rw [layout, ihi hrest, print]
    simp only [utf8_append, utf8_openParen, utf8_closeParen, List.append_assoc,
      List.cons_append, List.nil_append]
  | call head rest ih =>
    rw [layout, Layout.bytes, ih hnext, print]
    simp only [utf8_append, utf8_closeParen, head.utf8_print, List.append_assoc,
      List.cons_append, List.nil_append]
  | callWith head fallback rest ihf ihr =>
    have hplain : ∀ g, (Layout.plain g).bytes = g ++ [] := fun g => (List.append_nil g).symm
    rw [layout, Layout.bytes, ihf hplain, ihr hnext, print]
    simp only [utf8_append, utf8_comma, utf8_closeParen, head.utf8_print, List.append_assoc,
      List.cons_append, List.nil_append]

theorem bytes_layout_plain (items : Items) :
    (items.layout [] .plain).bytes = utf8 items.print := by
  have hplain : ∀ g, (Layout.plain g).bytes = g ++ [] := fun g => (List.append_nil g).symm
  rw [items.bytes_layout hplain, List.nil_append, List.append_nil]

end Items

/-! ### Gaps -/

/-- `gap` is what `before` ends with, from the end of its last call on. -/
structure Trails (before : String) (gap : List UInt8) : Prop where
  pending : Pending gap
  cut : ∃ m, utf8 before = m ++ gap ∧ ¬EndsIdent m

namespace Trails

variable {before : String} {gap : List UInt8}

theorem empty : Trails "" [] := ⟨Pending.nil, [], rfl, not_endsIdent_nil⟩

theorem of_last {l : List UInt8} {x : UInt8} (h : utf8 before = l ++ [x])
    (hx : Ascii.isIdent x = false) : Trails before [] := by
  refine ⟨Pending.nil, l ++ [x], by rw [h, List.append_nil], ?_⟩
  rw [endsIdent_concat, hx]
  exact Bool.false_ne_true

theorem append (h : Trails before gap) {s : String} (hs : Pending (gap ++ utf8 s)) :
    Trails (before ++ s) (gap ++ utf8 s) := by
  obtain ⟨m, hm, hend⟩ := h.cut
  refine ⟨hs, m, ?_, hend⟩
  rw [utf8_append, hm, List.append_assoc]

theorem gap_of_not_endsIdent (h : Trails before gap) (hb : ¬EndsIdent (utf8 before)) : Gap gap := by
  obtain ⟨m, hm, -⟩ := h.cut
  refine h.pending.gap fun hgap => hb ?_
  have hne : gap ≠ [] := by
    rintro rfl
    exact not_endsIdent_nil hgap
  rw [hm, endsIdent_append hne]
  exact hgap

theorem not_endsVar (h : Trails before gap) (hv : ¬EndsVar (utf8 before)) : ¬EndsVar gap := by
  obtain ⟨m, hm, hend⟩ := h.cut
  rintro ⟨l, w, rfl, hw, hl⟩
  refine hv ⟨m ++ l, w, by rw [hm, List.append_assoc], hw, ?_⟩
  by_cases hnil : l = []
  · rw [hnil, List.append_nil]
    exact hend
  · rw [endsIdent_append hnil]
    exact hl

theorem openParen (h : Trails before gap) (hv : ¬EndsVar (utf8 before)) :
    Trails (before ++ "(") (gap ++ [Ascii.openParen]) := by
  rw [← utf8_openParen]
  refine h.append ?_
  rw [utf8_openParen]
  exact h.pending.append_openParen (h.not_endsVar hv)

theorem closeParen (h : Trails before gap) : Trails (before ++ ")") (gap ++ [Ascii.closeParen]) := by
  rw [← utf8_closeParen]
  refine h.append (h.pending.append_of_forall ?_)
  intro x hx
  rw [utf8_closeParen, List.mem_singleton] at hx
  rw [hx]
  decide

end Trails

namespace Items

theorem sound_layout {items : Items} {before : String} {gap : List UInt8}
    {next : List UInt8 → Layout} (hfits : items.Fits before) (hgap : Trails before gap)
    (hnext : ∀ g, Trails (before ++ items.print) g → (next g).Sound) :
    (items.layout gap next).Sound := by
  induction items generalizing before gap next with
  | nil =>
    refine hnext gap ?_
    rw [print, String.append_empty]
    exact hgap
  | text t rest ih =>
    refine ih hfits (hgap.append ?_) ?_
    · refine hgap.pending.append_of_forall fun x hx => ?_
      obtain ⟨hquote, hopen, -⟩ := t.marks_of_mem hx
      exact ⟨hquote, hopen⟩
    · rw [String.append_assoc]
      exact hnext
  | quoted t rest ih =>
    refine ih hfits (hgap.append (hgap.pending.append_string t.isString)) ?_
    rw [String.append_assoc]
    exact hnext
  | group inner rest ihi ihr =>
    obtain ⟨hvar, hinner, hrest⟩ := hfits
    refine ihi hinner (hgap.openParen hvar) fun g hg => ?_
    have hclose := hg.closeParen
    simp only [String.append_assoc] at hclose
    refine ihr hrest hclose ?_
    simp only [String.append_assoc]
    exact hnext
  | call head rest ih =>
    obtain ⟨hend, hrest⟩ := hfits
    refine ⟨hgap.gap_of_not_endsIdent hend, head.isOpening, head.part_sound, ih hrest ?_ ?_⟩
    · refine Trails.of_last (l := utf8 (before ++ head.print)) (x := Ascii.closeParen) ?_ (by decide)
      rw [← String.append_assoc, utf8_append, utf8_closeParen]
    · simp only [String.append_assoc]
      exact hnext
  | callWith head fallback rest ihf ihr =>
    obtain ⟨hend, hfallback, hrest⟩ := hfits
    refine ⟨hgap.gap_of_not_endsIdent hend, head.isOpening, head.part_sound, ⟨?_, ?_⟩,
      ihr hrest ?_ ?_⟩
    · refine ihf hfallback ?_ fun g hg => hg.pending.noSite
      refine Trails.of_last (l := utf8 (before ++ head.print)) (x := Ascii.comma) ?_ (by decide)
      rw [← String.append_assoc, utf8_append, utf8_comma]
    · rw [fallback.bytes_layout_plain]
      exact fallback.read?_print 0
    · refine Trails.of_last (l := utf8 (before ++ (head.print ++ ("," ++ fallback.print))))
        (x := Ascii.closeParen) ?_ (by decide)
      rw [← utf8_closeParen, ← utf8_append]
      simp only [String.append_assoc]
    · simp only [String.append_assoc]
      exact hnext

end Items

/-! ### What the references cut out -/

/-- `value` reads `s` at `n`. -/
def Reads (value : String) (n : Nat) (s : String) : Prop :=
  Span.slice? ⟨n, n + s.utf8ByteSize⟩ value = some s

theorem Reads.left {value s t : String} {n : Nat} (h : Reads value n (s ++ t)) :
    Reads value n s := by
  obtain ⟨a, z, hvalue, hstart, -⟩ := Span.slice?_eq_some_iff.mp h
  dsimp only at hstart
  refine Span.slice?_eq_some_iff.mpr ⟨a, t ++ z, ?_, hstart, ?_⟩
  · rw [hvalue, String.append_assoc]
  · rw [hstart]

theorem Reads.right {value s t : String} {n : Nat} (h : Reads value n (s ++ t)) :
    Reads value (n + s.utf8ByteSize) t := by
  obtain ⟨a, z, hvalue, hstart, -⟩ := Span.slice?_eq_some_iff.mp h
  dsimp only at hstart
  refine Span.slice?_eq_some_iff.mpr ⟨a ++ s, z, ?_, ?_, ?_⟩
  · rw [hvalue, String.append_assoc, String.append_assoc]
  · rw [hstart, String.utf8ByteSize_append]
  · rw [hstart, String.utf8ByteSize_append]

theorem Reads.self (s : String) : Reads s 0 s := by
  refine Span.slice?_eq_some_iff.mpr ⟨"", "", ?_, rfl, rfl⟩
  rw [String.empty_append, String.append_empty]

/-- A reference and the pieces that it cuts out of the value it was found in. -/
def Reference.cited? (r : Reference) (value : String) : Option Cited := do
  let text ← r.span.slice? value
  let name ← r.name.slice? value
  match r.fallback with
  | none => return ⟨r.span.start, text, name, none⟩
  | some span => return ⟨r.span.start, text, name, some (← span.slice? value)⟩

/-- What the calls that name something cut out of a value. -/
def cites (value : String) (calls : List Call) : List (Option Cited) :=
  (calls.filterMap Call.reference?).map (·.cited? value)

theorem cites_append (value : String) (l m : List Call) :
    cites value (l ++ m) = cites value l ++ cites value m := by
  rw [cites, List.filterMap_append, List.map_append]
  rfl

theorem cites_cons {value : String} {c : Call} {r : Reference} (h : c.reference? = some r)
    (l : List Call) : cites value (c :: l) = r.cited? value :: cites value l := by
  rw [cites, List.filterMap_cons_some h, List.map_cons]
  rfl

namespace CallHead

variable (h : CallHead)

theorem utf8ByteSize_print : h.print.utf8ByteSize = 4 + h.part.bytes.length := by
  rw [← length_utf8, h.utf8_print, List.length_append, h.isOpening.length]

theorem exists_name {value : String} {n : Nat} (hreads : Reads value n h.print) :
    ∃ r, h.part.span? (n + 4) = some r ∧ r.slice? value = some h.name := by
  have hword := h.isOpening.length
  rw [opening, List.length_append, length_utf8, List.length_singleton] at hword
  have hname : Reads value (n + h.word.utf8ByteSize + 1 + h.lead.utf8ByteSize + 2) h.name :=
    hreads.right.right.right.right.left
  have hstart : n + h.word.utf8ByteSize + 1 = n + 4 := by omega
  rw [hstart] at hname
  exact ⟨_, rfl, hname⟩

theorem cites_call {value : String} {n : Nat} (hreads : Reads value n (h.print ++ ")"))
    (l : List Call) :
    cites value (⟨⟨n, n + 4 + h.part.bytes.length + 1⟩, h.part.span? (n + 4), none⟩ :: l) =
      some ⟨n, h.print ++ ")", h.name, none⟩ :: cites value l := by
  have hhead := h.utf8ByteSize_print
  obtain ⟨r, hr, hname⟩ := h.exists_name hreads.left
  have hstop : n + (h.print ++ ")").utf8ByteSize = n + 4 + h.part.bytes.length + 1 := by
    have hclose : (")" : String).utf8ByteSize = 1 := rfl
    rw [String.utf8ByteSize_append]
    omega
  rw [Reads, hstop] at hreads
  rw [cites_cons (by rw [Call.reference?, hr]; rfl)]
  simp [Reference.cited?, hreads, hname]

theorem cites_callWith {value f : String} {n : Nat}
    (hreads : Reads value n (h.print ++ ("," ++ (f ++ ")")))) (l : List Call) :
    cites value (⟨⟨n, n + 4 + h.part.bytes.length + 1 + f.utf8ByteSize + 1⟩, h.part.span? (n + 4),
        some ⟨n + 4 + h.part.bytes.length + 1,
          n + 4 + h.part.bytes.length + 1 + f.utf8ByteSize⟩⟩ :: l) =
      some ⟨n, h.print ++ ("," ++ (f ++ ")")), h.name, some f⟩ :: cites value l := by
  have hhead := h.utf8ByteSize_print
  obtain ⟨r, hr, hname⟩ := h.exists_name hreads.left
  have hinner : Reads value (n + h.print.utf8ByteSize + 1) f := hreads.right.right.left
  have hstop : n + (h.print ++ ("," ++ (f ++ ")"))).utf8ByteSize =
      n + 4 + h.part.bytes.length + 1 + f.utf8ByteSize + 1 := by
    have hcomma : ("," : String).utf8ByteSize = 1 := rfl
    have hclose : (")" : String).utf8ByteSize = 1 := rfl
    simp only [String.utf8ByteSize_append]
    omega
  have hstart : n + h.print.utf8ByteSize + 1 = n + 4 + h.part.bytes.length + 1 := by omega
  rw [Reads, hstart] at hinner
  rw [Reads, hstop] at hreads
  rw [cites_cons (by rw [Call.reference?, hr]; rfl)]
  simp [Reference.cited?, hreads, hname, hinner]

end CallHead

namespace Items

theorem utf8ByteSize_print_group (inner rest : Items) : (group inner rest).print.utf8ByteSize =
    1 + inner.print.utf8ByteSize + 1 + rest.print.utf8ByteSize := by
  simp only [print, String.utf8ByteSize_append]
  have hopen : ("(" : String).utf8ByteSize = 1 := rfl
  have hclose : (")" : String).utf8ByteSize = 1 := rfl
  omega

theorem utf8ByteSize_print_call (head : CallHead) (rest : Items) :
    (call head rest).print.utf8ByteSize =
      head.print.utf8ByteSize + 1 + rest.print.utf8ByteSize := by
  simp only [print, String.utf8ByteSize_append]
  have hclose : (")" : String).utf8ByteSize = 1 := rfl
  omega

theorem utf8ByteSize_print_callWith (head : CallHead) (fallback rest : Items) :
    (callWith head fallback rest).print.utf8ByteSize = head.print.utf8ByteSize + 1 +
      fallback.print.utf8ByteSize + 1 + rest.print.utf8ByteSize := by
  simp only [print, String.utf8ByteSize_append]
  have hcomma : ("," : String).utf8ByteSize = 1 := rfl
  have hclose : (")" : String).utf8ByteSize = 1 := rfl
  omega

theorem cites_layout {items : Items} {value : String} {gap : List UInt8} {o n : Nat}
    {next : List UInt8 → Layout} {l : List (Option Cited)} (hreads : Reads value n items.print)
    (ho : o + gap.length = n) (hnext : ∀ g p, p + g.length = n + items.print.utf8ByteSize →
      cites value ((next g).calls p) = l) :
    cites value ((items.layout gap next).calls o) = (items.cited n).map some ++ l := by
  induction items generalizing gap o n next l with
  | nil => exact hnext gap o ho
  | text t rest ih =>
    refine ih hreads.right ?_ fun g p hp => hnext g p ?_
    · rw [List.length_append, length_utf8]
      omega
    · rw [print, String.utf8ByteSize_append]
      omega
  | quoted t rest ih =>
    refine ih hreads.right ?_ fun g p hp => hnext g p ?_
    · rw [List.length_append, length_utf8]
      omega
    · rw [print, String.utf8ByteSize_append]
      omega
  | group inner rest ihi ihr =>
    have hinner : Reads value (n + 1) (inner.print ++ (")" ++ rest.print)) := hreads.right
    rw [cited, List.map_append, List.append_assoc]
    refine ihi hinner.left ?_ fun g p hp => ihr hinner.right.right ?_ fun g' p' hp' => hnext g' p' ?_
    · rw [List.length_append, List.length_singleton]
      omega
    · rw [List.length_append, List.length_singleton]
      omega
    · rw [utf8ByteSize_print_group]
      omega
  | call head rest ih =>
    have hhead := head.utf8ByteSize_print
    have hcall : Reads value n ((head.print ++ ")") ++ rest.print) := by
      rw [String.append_assoc]
      exact hreads
    subst ho
    rw [layout, Layout.calls, head.cites_call hcall.left, cited, List.map_cons, List.cons_append]
    congr 1
    refine ih hreads.right.right ?_ fun g p hp => hnext g p ?_
    · rw [List.length_nil]
      omega
    · rw [utf8ByteSize_print_call]
      omega
  | callWith head fallback rest ihf ihr =>
    have hhead := head.utf8ByteSize_print
    have hbytes : (fallback.layout [] .plain).bytes.length = fallback.print.utf8ByteSize := by
      rw [fallback.bytes_layout_plain, length_utf8]
    have hcall : Reads value n ((head.print ++ ("," ++ (fallback.print ++ ")"))) ++ rest.print) := by
      simp only [String.append_assoc]
      exact hreads
    have hinner : Reads value (n + head.print.utf8ByteSize + 1)
        (fallback.print ++ (")" ++ rest.print)) := hreads.right.right
    subst ho
    rw [layout, Layout.calls, hbytes, head.cites_callWith hcall.left, cites_append, cited,
      List.map_cons, List.cons_append, List.map_append, List.append_assoc]
    congr 2
    · rw [← List.append_nil (List.map some _)]
      refine ihf hinner.left ?_ fun g p hp => rfl
      rw [List.length_nil]
      omega
    · refine ihr hinner.right.right ?_ fun g p hp => hnext g p ?_
      · rw [List.length_nil]
        omega
      · rw [utf8ByteSize_print_callWith]
        omega

end Items

theorem name_of_cited? {r : Reference} {value : String} {c : Cited} (h : r.cited? value = some c) :
    r.nameIn value = c.name := by
  obtain ⟨text, -, h⟩ := Option.bind_eq_some_iff.mp h
  obtain ⟨name, hname, h⟩ := Option.bind_eq_some_iff.mp h
  rw [Reference.nameIn, Span.slice_of_slice? hname]
  split at h
  · cases h
    rfl
  · obtain ⟨fallback, -, h⟩ := Option.bind_eq_some_iff.mp h
    cases h
    rfl

theorem map_nameIn_of_cited? {rs : List Reference} {value : String} {cs : List Cited}
    (h : rs.map (·.cited? value) = cs.map some) : rs.map (·.nameIn value) = cs.map (·.name) := by
  induction rs generalizing cs with
  | nil =>
    obtain rfl := List.map_eq_nil_iff.mp h.symm
    rfl
  | cons r rs ih =>
    obtain ⟨c, cs, rfl, hc, hcs⟩ := List.map_eq_cons_iff.mp h.symm
    rw [List.map_cons, List.map_cons, name_of_cited? hc.symm, ih hcs.symm]

/-- A scan of a printed tree finds the calls of the tree, each before those of its fallback, and
cuts out of the print what the tree has: the call, its name and its fallback. -/
theorem scan_print (items : Items) (h : items.Fits "") :
    (scan items.print).unterminatedAt = none ∧
      (scan items.print).names items.print = (items.cited 0).map (·.name) ∧
      (scan items.print).references.map (·.cited? items.print) = (items.cited 0).map some := by
  have hsound : (items.layout [] .plain).Sound :=
    Items.sound_layout h Trails.empty fun g hg => hg.pending.noSite
  have hread : Nesting.read? ⟨.outside, 0⟩ (items.layout [] .plain).bytes = some ⟨.outside, 0⟩ := by
    rw [items.bytes_layout_plain]
    exact items.read?_print 0
  have hcites : cites items.print ((items.layout [] .plain).calls 0) = (items.cited 0).map some := by
    rw [← List.append_nil (List.map some _)]
    exact Items.cites_layout (Reads.self items.print) rfl fun g p hp => rfl
  have hscan : scan items.print = ⟨(items.layout [] .plain).calls 0, none⟩ := by
    rw [scan_eq_of_layout hsound items.bytes_layout_plain.symm,
      Layout.cutAt?_eq_none_of_read? hsound hread]
  rw [hscan]
  exact ⟨rfl, map_nameIn_of_cited? hcites, hcites⟩

/-- A call in the fallback of another call, behind a string that holds a parenthesis. -/
def nestedItems : Items :=
  .text ⟨"calc", by simp⟩ (.group
    (.callWith ⟨"var", "", "a", "", by decide, by simp, by simp, by simp [marks], [], 'a', rfl,
        by decide⟩
      (.quoted ⟨'"', Or.inl rfl, [.escaped '"', .plain ')' (by decide)]⟩
        (.call ⟨"VAR", " ", "b", "", by decide, by simp [blanks], by simp, by simp [marks], [], 'b',
          rfl, by decide⟩ .nil))
      (.text ⟨", 1px", by simp⟩ .nil)) .nil)

theorem scan_print_of_nested :
    nestedItems.print = "calc(var(--a,\"\\\")\"VAR( --b)), 1px)" ∧ nestedItems.Fits "" ∧
      (scan nestedItems.print).names nestedItems.print = ["a", "b"] := by
  have hfits : nestedItems.Fits "" := by decide
  refine ⟨by decide, hfits, ?_⟩
  rw [(scan_print nestedItems hfits).2.1]
  decide

end CustomProps.Value
