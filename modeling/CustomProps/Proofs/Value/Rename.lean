import CustomProps.Proofs.Text.Weave
import CustomProps.Proofs.Value.Names
import Mathlib.Data.List.Forall2
/-!
# Other names in the same layout

A layout with other names in the place of its own is again the layout that a scan follows, as long
as the new names do as the old ones do: they end in ink and a reader of name parts gets through
them. So a scan of the new text finds the same calls, moved by what the names before them have
grown.
-/
namespace CustomProps.Value

namespace NamePart

/-- The part with `g` of its name. -/
def rename (g : List UInt8 → List UInt8) : NamePart → NamePart
  | named lead name trail => named lead (g name) trail
  | nameless text => nameless text

end NamePart

namespace Layout

/-- The layout with `g` of all its names. -/
def rename (g : List UInt8 → List UInt8) : Layout → Layout
  | plain text => plain text
  | cut gap word rest => cut gap word rest
  | call gap word part after => call gap word (part.rename g) (after.rename g)
  | callWith gap word part fallback after =>
    callWith gap word (part.rename g) (fallback.rename g) (after.rename g)

/-! ### The new layout is sound -/

theorem read?_append_congr {k l m : List UInt8} (hk : Quoting.outside.after k = .outside)
    (h : ∀ d, Nesting.read? ⟨.outside, d⟩ l = Nesting.read? ⟨.outside, d⟩ m) (d : Nat) :
    Nesting.read? ⟨.outside, d⟩ (k ++ l) = Nesting.read? ⟨.outside, d⟩ (k ++ m) := by
  rw [Nesting.read?_append, Nesting.read?_append]
  cases hr : Nesting.read? ⟨.outside, d⟩ k with
  | none => rfl
  | some t =>
    obtain ⟨q, e⟩ := t
    have hq : q = .outside := (Nesting.quoting_of_read? hr).trans hk
    rw [Option.bind_some, Option.bind_some, hq]
    exact h e

theorem read?_append_of_top {k : List UInt8} (hk : Nesting.top.read? k = some .top) (l : List UInt8)
    (d : Nat) : Nesting.read? ⟨.outside, d⟩ (k ++ l) = Nesting.read? ⟨.outside, d⟩ l := by
  rw [Nesting.read?_append, read?_of_top hk, Option.bind_some]

section Sound

variable {g : List UInt8 → List UInt8} (hg : ∀ p : NamePart, p.Sound → (p.rename g).Sound)

include hg in
/-- A reader gets as far through the new text as through the old one. -/
theorem read?_rename {t : Layout} (ht : t.Sound) (d : Nat) :
    Nesting.read? ⟨.outside, d⟩ (t.rename g).bytes = Nesting.read? ⟨.outside, d⟩ t.bytes := by
  have hclose : Quoting.outside.after [Ascii.closeParen] = .outside := rfl
  have hcomma : Quoting.outside.after [Ascii.comma] = .outside := rfl
  induction t generalizing d with
  | plain text => rfl
  | cut gap word rest => rfl
  | call gap word part after iha =>
    obtain ⟨hgap, hword, hpart, hafter⟩ := ht
    refine read?_append_congr hgap.closed (read?_append_congr (after_opening hword) fun e => ?_) d
    rw [read?_append_of_top (Nesting.read?_of_readPart? (hg part hpart).closed),
      read?_append_of_top (Nesting.read?_of_readPart? hpart.closed)]
    exact read?_append_congr hclose (iha hafter) e
  | callWith gap word part fallback after ihf iha =>
    obtain ⟨hgap, hword, hpart, ⟨hfallback, hclosed⟩, hafter⟩ := ht
    refine read?_append_congr hgap.closed (read?_append_congr (after_opening hword) fun e => ?_) d
    rw [read?_append_of_top (Nesting.read?_of_readPart? (hg part hpart).closed),
      read?_append_of_top (Nesting.read?_of_readPart? hpart.closed)]
    refine read?_append_congr hcomma (fun e => ?_) e
    have hnew : Nesting.top.read? (fallback.rename g).bytes = some .top := by
      rw [← hclosed]
      exact ihf hfallback 0
    show Nesting.read? ⟨.outside, e⟩ ((fallback.rename g).bytes ++ _) =
      Nesting.read? ⟨.outside, e⟩ (fallback.bytes ++ _)
    rw [read?_append_of_top hnew, read?_append_of_top hclosed]
    exact read?_append_congr hclose (iha hafter) e

include hg in
theorem sound_rename {t : Layout} (ht : t.Sound) : (t.rename g).Sound := by
  induction t with
  | plain text => exact ht
  | cut gap word rest => exact ht
  | call gap word part after iha =>
    obtain ⟨hgap, hword, hpart, hafter⟩ := ht
    exact ⟨hgap, hword, hg part hpart, iha hafter⟩
  | callWith gap word part fallback after ihf iha =>
    obtain ⟨hgap, hword, hpart, ⟨hfallback, hclosed⟩, hafter⟩ := ht
    refine ⟨hgap, hword, hg part hpart, ⟨ihf hfallback, ?_⟩, iha hafter⟩
    rw [← hclosed]
    exact read?_rename hg hfallback 0

end Sound

end Layout

/-! ### The new text -/

section Bytes

variable (g : List UInt8 → List UInt8) {b : ByteArray} {cs : List (Span × List UInt8)}

/-- Every name with `g` of it, to be put in its place. -/
def changes (ns : List (Span × List UInt8)) : List (Span × List UInt8) :=
  ns.map fun n => (n.1, g n.2)

theorem NamePart.weaveBytes_name? {p : NamePart} {o k : Nat} (ho : o ≤ k) (hk : k ≤ b.size)
    (h : between b o k = p.bytes) (hcs : ∀ c ∈ cs, k ≤ c.1.start) :
    weaveBytes b o (changes g (p.name? o).toList ++ cs) = (p.rename g).bytes ++ weaveBytes b k cs := by
  cases p with
  | nameless text =>
    show weaveBytes b o cs = _
    rw [weaveBytes_of_le ho hk hcs, h]
    rfl
  | named lead name trail =>
    obtain ⟨hle₁, hlead, h₁⟩ := between_eq_append hk ho h
    obtain ⟨hle₂, hdashes, h₂⟩ := between_eq_append hk hle₁ h₁
    obtain ⟨hle₃, -, htrail⟩ := between_eq_append hk hle₂ h₂
    have hfront : between b o (o + lead.length + 2) = lead ++ dashes := by
      rw [← between_append (Nat.le_add_right o lead.length) (Nat.le_add_right _ 2), hlead]
      exact congrArg (lead ++ ·) hdashes
    show between b o (o + lead.length + 2) ++
      (g name ++ weaveBytes b (o + lead.length + dashes.length + name.length) cs) = _
    rw [weaveBytes_of_le hle₃ hk hcs, htrail, hfront]
    simp only [rename, bytes, List.append_assoc]

theorem NamePart.lt_start_of_mem_name? {p : NamePart} {o : Nat} {n : Span × List UInt8}
    (h : n ∈ (p.name? o).toList) : o < n.1.start := by
  cases p with
  | nameless text => cases h
  | named lead name trail =>
    obtain rfl := List.mem_singleton.mp h
    dsimp only
    omega

namespace Layout

theorem lt_start_of_mem_names {t : Layout} {o : Nat} {n : Span × List UInt8}
    (h : n ∈ t.names o) : o < n.1.start := by
  induction t generalizing o with
  | plain text => cases h
  | cut gap word rest => cases h
  | call gap word part after iha =>
    rcases List.mem_append.mp h with h | h
    · have hlt := NamePart.lt_start_of_mem_name? h
      omega
    · have hlt := iha h
      omega
  | callWith gap word part fallback after ihf iha =>
    rcases List.mem_append.mp h with h | h
    · have hlt := NamePart.lt_start_of_mem_name? h
      omega
    · rcases List.mem_append.mp h with h | h
      · have hlt := ihf h
        omega
      · have hlt := iha h
        omega

theorem weaveBytes_head {gap word rest : List UInt8} {p : NamePart} {x : UInt8} {i stop : Nat}
    (hword : IsOpening word) (hi : i ≤ stop) (hs : stop ≤ b.size)
    (h : between b i stop = gap ++ (word ++ (p.bytes ++ x :: rest))) :
    i + gap.length + 4 + p.bytes.length + 1 ≤ stop ∧
      between b (i + gap.length + 4 + p.bytes.length + 1) stop = rest ∧
      ∀ cs : List (Span × List UInt8),
        (∀ c ∈ cs, i + gap.length + 4 + p.bytes.length + 1 ≤ c.1.start) →
        weaveBytes b i (changes g (p.name? (i + gap.length + 4)).toList ++ cs) =
          gap ++ (word ++ ((p.rename g).bytes ++
            x :: weaveBytes b (i + gap.length + 4 + p.bytes.length + 1) cs)) := by
  obtain ⟨-, hfront, -⟩ := between_word hs hi hword h
  obtain ⟨hbody, hrest, hlt, hx⟩ := between_head hs hi hword h
  refine ⟨hlt, hrest, fun cs hcs => ?_⟩
  have hstart : ∀ c ∈ changes g (p.name? (i + gap.length + 4)).toList ++ cs,
      i + gap.length + 4 ≤ c.1.start := by
    intro c hc
    rcases List.mem_append.mp hc with hc | hc
    · obtain ⟨n, hn, rfl⟩ := List.mem_map.mp hc
      have hlt := NamePart.lt_start_of_mem_name? hn
      exact Nat.le_of_lt hlt
    · have hle := hcs c hc
      omega
  have hmark : between b (i + gap.length + 4 + p.bytes.length)
      (i + gap.length + 4 + p.bytes.length + 1) = [x] := by
    rw [between_of_lt (Nat.lt_succ_self _) (by omega), between_self, hx]
  rw [weaveBytes_of_le (by omega) (by omega) hstart, hfront,
    NamePart.weaveBytes_name? g (Nat.le_add_right _ _) (by omega) hbody
      (fun c hc => Nat.le_of_succ_le (hcs c hc)),
    weaveBytes_of_le (Nat.le_succ _) (by omega) hcs, hmark]
  simp only [List.append_assoc, List.singleton_append]

/-- Putting the new names into a text makes the text of the new layout. -/
theorem weaveBytes_names {t : Layout} (ht : t.Sound) {i stop : Nat} (hi : i ≤ stop)
    (hs : stop ≤ b.size) (h : between b i stop = t.bytes) (hcs : ∀ c ∈ cs, stop ≤ c.1.start) :
    weaveBytes b i (changes g (t.names i) ++ cs) = (t.rename g).bytes ++ weaveBytes b stop cs := by
  have hnames : ∀ {u : Layout} {k l : Nat} {ds : List (Span × List UInt8)}, k ≤ l →
      (∀ c ∈ ds, l ≤ c.1.start) → ∀ c ∈ changes g (u.names k) ++ ds, k ≤ c.1.start := by
    intro u k l ds hkl hds c hc
    rcases List.mem_append.mp hc with hc | hc
    · obtain ⟨n, hn, rfl⟩ := List.mem_map.mp hc
      have hlt := lt_start_of_mem_names hn
      exact Nat.le_of_lt hlt
    · exact Nat.le_trans hkl (hds c hc)
  induction t generalizing i stop cs with
  | plain text =>
    show weaveBytes b i cs = _
    rw [weaveBytes_of_le hi hs hcs, h]
    rfl
  | cut gap word rest =>
    show weaveBytes b i cs = _
    rw [weaveBytes_of_le hi hs hcs, h]
    rfl
  | call gap word part after iha =>
    obtain ⟨-, hword, -, hafter⟩ := ht
    obtain ⟨hle, hrest, hhead⟩ := weaveBytes_head g hword hi hs h
    rw [names, changes, List.map_append, List.append_assoc]
    show weaveBytes b i (changes g (part.name? (i + gap.length + 4)).toList ++
      (changes g (after.names (i + gap.length + 4 + part.bytes.length + 1)) ++ cs)) = _
    rw [hhead _ (hnames hle hcs), iha hafter hle hs hrest hcs]
    simp only [rename, bytes, List.append_assoc, List.cons_append]
  | callWith gap word part fallback after ihf iha =>
    obtain ⟨-, hword, -, ⟨hfallback, -⟩, hafter⟩ := ht
    obtain ⟨hle, hrest, hhead⟩ := weaveBytes_head g hword hi hs h
    obtain ⟨hle₁, hinner, h₁⟩ := between_eq_append hs hle hrest
    obtain ⟨hlt, hclose, hlast⟩ := between_eq_cons hs hle₁ h₁
    have hmark : between b
        (i + gap.length + 4 + part.bytes.length + 1 + fallback.bytes.length)
        (i + gap.length + 4 + part.bytes.length + 1 + fallback.bytes.length + 1) =
          [Ascii.closeParen] := by
      rw [between_of_lt (Nat.lt_succ_self _) (by omega), between_self, hclose]
    have hlater := hnames (u := after) (k :=
      i + gap.length + 4 + part.bytes.length + 1 + fallback.bytes.length + 1) hlt hcs
    rw [names, changes, List.map_append, List.map_append, List.append_assoc, List.append_assoc]
    show weaveBytes b i (changes g (part.name? (i + gap.length + 4)).toList ++
      (changes g (fallback.names (i + gap.length + 4 + part.bytes.length + 1)) ++
        (changes g (after.names
          (i + gap.length + 4 + part.bytes.length + 1 + fallback.bytes.length + 1)) ++ cs))) = _
    rw [hhead _ (hnames (Nat.le_succ_of_le (Nat.le_add_right _ _)) hlater),
      ihf hfallback (Nat.le_add_right _ _) (by omega) hinner fun c hc => Nat.le_of_succ_le (hlater c hc),
      weaveBytes_of_le (Nat.le_succ _) (by omega) hlater, hmark, iha hafter hlt hs hlast hcs]
    simp only [rename, bytes, List.append_assoc, List.cons_append, List.nil_append]

theorem map_snd_names_rename (t : Layout) (o o' : Nat) :
    ((t.rename g).names o').map Prod.snd = (t.names o).map fun n => g n.2 := by
  have hpart : ∀ (p : NamePart) (k k' : Nat), ((p.rename g).name? k').toList.map Prod.snd =
      (p.name? k).toList.map fun n => g n.2 := by
    intro p k k'
    cases p with
    | named lead name trail => rfl
    | nameless text => rfl
  induction t generalizing o o' with
  | plain text => rfl
  | cut gap word rest => rfl
  | call gap word part after iha =>
    rw [rename, names, names, List.map_append, List.map_append, hpart, iha]
  | callWith gap word part fallback after ihf iha =>
    rw [rename, names, names, List.map_append, List.map_append, List.map_append, List.map_append,
      hpart, ihf, iha]

end Layout

end Bytes

/-! ### Where the calls come to lie -/

section Shift

variable (g : List UInt8 → List UInt8)

/-- By how much a name grows. -/
def growth (n : Span × List UInt8) : Int := (g n.2).length - n.2.length

/-- By how much the names that end at or before `x` grow. -/
def shift (ns : List (Span × List UInt8)) (x : Nat) : Int :=
  ((ns.filter fun n => n.1.stop ≤ x).map (growth g)).sum

theorem shift_append (ms ns : List (Span × List UInt8)) (x : Nat) :
    shift g (ms ++ ns) x = shift g ms x + shift g ns x := by
  rw [shift, List.filter_append, List.map_append, List.sum_append, shift, shift]

theorem shift_eq_zero {ns : List (Span × List UInt8)} {x : Nat} (h : ∀ n ∈ ns, x < n.1.stop) :
    shift g ns x = 0 := by
  have hnil : ns.filter (fun n => n.1.stop ≤ x) = [] := by
    refine List.filter_eq_nil_iff.mpr fun n hn => ?_
    have hlt := h n hn
    simp only [decide_eq_true_eq]
    omega
  rw [shift, hnil]
  rfl

theorem shift_eq_sum {ns : List (Span × List UInt8)} {x : Nat} (h : ∀ n ∈ ns, n.1.stop ≤ x) :
    shift g ns x = (ns.map (growth g)).sum := by
  have hall : ns.filter (fun n => n.1.stop ≤ x) = ns := by
    refine List.filter_eq_self.mpr fun n hn => ?_
    simp only [decide_eq_true_eq]
    exact h n hn
  rw [shift, hall]

/-- From `o` to `len` bytes further, `m` takes offsets to where they are in a text that is at `o'` and
in which the given names have grown. -/
def Follows (m : Nat → Int) (ns : List (Span × List UInt8)) (o o' len : Nat) : Prop :=
  ∀ x, o ≤ x → x ≤ o + len → m x = x + ((o' : Int) - o) + shift g ns x

variable {g} {m : Nat → Int} {ms ns : List (Span × List UInt8)} {o o' len : Nat}

/-- A stretch parts at any offset that splits no name. -/
theorem Follows.split {k l p p' : Nat} (h : Follows g m (ms ++ ns) o o' (k + l)) (hp : p = o + k)
    (hp' : (p' : Int) = o' + k + (ms.map (growth g)).sum) (hms : ∀ n ∈ ms, n.1.stop ≤ p)
    (hns : ∀ n ∈ ns, p < n.1.stop) : Follows g m ms o o' k ∧ Follows g m ns p p' l := by
  constructor
  · intro x hox hxk
    have hlater : shift g ns x = 0 := by
      refine shift_eq_zero g fun n hn => ?_
      have hlt := hns n hn
      omega
    rw [h x hox (by omega), shift_append, hlater, Int.add_zero]
  · intro x hox hxk
    have hearlier : shift g ms x = (ms.map (growth g)).sum := by
      refine shift_eq_sum g fun n hn => ?_
      have hle := hms n hn
      omega
    rw [h x (by omega) (by omega), shift_append, hearlier]
    omega

theorem Follows.apply_start (h : Follows g m ns o o' len) (hns : ∀ n ∈ ns, o < n.1.stop) :
    (o' : Int) = m o := by
  rw [h o (Nat.le_refl _) (Nat.le_add_right _ _), shift_eq_zero g hns]
  omega

theorem Follows.apply_nil (h : Follows g m [] o o' len) {k : Nat} (hk : k ≤ len) :
    ((o' + k : Nat) : Int) = m (o + k) := by
  rw [h (o + k) (by omega) (by omega), shift_eq_zero g (by simp)]
  omega

theorem Follows.apply_end (h : Follows g m ns o o' len) {k : Nat} (hk : k ≤ len)
    (hns : ∀ n ∈ ns, n.1.stop ≤ o + k) : m (o + k) = o' + k + (ns.map (growth g)).sum := by
  rw [h (o + k) (by omega) (by omega), shift_eq_sum g hns]
  omega

end Shift

/-- Both ends of a range are moved by `m`. -/
structure MovesSpan (m : Nat → Int) (r r' : Span) : Prop where
  start : (r'.start : Int) = m r.start
  stop : (r'.stop : Int) = m r.stop

/-- All that is known of where a call lies is moved by `m`. -/
structure MovesCall (m : Nat → Int) (c c' : Call) : Prop where
  span : MovesSpan m c.span c'.span
  name : Option.Rel (MovesSpan m) c.name c'.name
  fallback : Option.Rel (MovesSpan m) c.fallback c'.fallback

namespace NamePart

variable {g : List UInt8 → List UInt8}

theorem bounds_of_mem_name? {p : NamePart} {o : Nat} {n : Span × List UInt8}
    (h : n ∈ (p.name? o).toList) : o < n.1.stop ∧ n.1.stop ≤ o + p.bytes.length := by
  cases p with
  | nameless text => cases h
  | named lead name trail =>
    obtain rfl := List.mem_singleton.mp h
    have hlen : dashes.length = 2 := rfl
    simp only [bytes, List.length_append, hlen]
    omega

theorem length_rename (p : NamePart) (o : Nat) :
    ((p.rename g).bytes.length : Int) =
      p.bytes.length + ((p.name? o).toList.map (growth g)).sum := by
  cases p with
  | nameless text => simp [rename, name?]
  | named lead name trail =>
    simp only [rename, bytes, name?, growth, List.length_append, Option.toList_some,
      List.map_cons, List.map_nil, List.sum_cons, List.sum_nil]
    omega

theorem moves_span? {m : Nat → Int} {p : NamePart} {o o' len : Nat} (hp : p.Split)
    (hlen : p.bytes.length ≤ len) (hm : Follows g m (p.name? o).toList o o' len) :
    Option.Rel (MovesSpan m) (p.span? o) ((p.rename g).span? o') := by
  cases p with
  | nameless text => exact Option.Rel.none
  | named lead name trail =>
    have hdashes : dashes.length = 2 := rfl
    have hpos : 0 < name.length := by
      obtain ⟨-, ⟨l, x, rfl, -⟩, -⟩ := hp
      simp
    simp only [bytes, List.length_append, hdashes] at hlen
    refine Option.Rel.some ⟨?_, ?_⟩
    · rw [hm _ (by dsimp only; omega) (by dsimp only; omega), shift_eq_zero]
      · dsimp only
        omega
      · intro n hn
        obtain rfl := List.mem_singleton.mp hn
        dsimp only
        omega
    · rw [hm _ (by dsimp only; omega) (by dsimp only; omega), shift_eq_sum]
      · simp only [name?, growth, Option.toList_some, List.map_cons, List.map_nil, List.sum_cons,
          List.sum_nil]
        omega
      · intro n hn
        obtain rfl := List.mem_singleton.mp hn
        exact Nat.le_refl _

end NamePart

namespace Layout

variable {g : List UInt8 → List UInt8}

theorem bounds_of_mem_names {t : Layout} (ht : t.Sound) {o : Nat} {n : Span × List UInt8}
    (h : n ∈ t.names o) : o < n.1.stop ∧ n.1.stop ≤ o + t.bytes.length := by
  induction t generalizing o with
  | plain text => cases h
  | cut gap word rest => cases h
  | call gap word part after iha =>
    obtain ⟨-, hword, -, hafter⟩ := ht
    simp only [bytes, List.length_append, List.length_cons, hword.length]
    rcases List.mem_append.mp h with h | h
    · have hn := NamePart.bounds_of_mem_name? h
      omega
    · have hn := iha hafter h
      omega
  | callWith gap word part fallback after ihf iha =>
    obtain ⟨-, hword, -, ⟨hfallback, -⟩, hafter⟩ := ht
    simp only [bytes, List.length_append, List.length_cons, hword.length]
    rcases List.mem_append.mp h with h | h
    · have hn := NamePart.bounds_of_mem_name? h
      omega
    · rcases List.mem_append.mp h with h | h
      · have hn := ihf hfallback h
        omega
      · have hn := iha hafter h
        omega

theorem length_rename (t : Layout) (o : Nat) :
    ((t.rename g).bytes.length : Int) = t.bytes.length + ((t.names o).map (growth g)).sum := by
  induction t generalizing o with
  | plain text => simp [rename, names]
  | cut gap word rest => simp [rename, names]
  | call gap word part after iha =>
    have hpart := part.length_rename (g := g) (o + gap.length + 4)
    have hafter := iha (o + gap.length + 4 + part.bytes.length + 1)
    simp only [rename, bytes, names, List.length_append, List.length_cons, List.map_append,
      List.sum_append]
    omega
  | callWith gap word part fallback after ihf iha =>
    have hpart := part.length_rename (g := g) (o + gap.length + 4)
    have hfallback := ihf (o + gap.length + 4 + part.bytes.length + 1)
    have hafter := iha (o + gap.length + 4 + part.bytes.length + 1 + fallback.bytes.length + 1)
    simp only [rename, bytes, names, List.length_append, List.length_cons, List.map_append,
      List.sum_append]
    omega

theorem Follows.head {m : Nat → Int} {p : NamePart} (hp : p.Split)
    {ns : List (Span × List UInt8)} {o o' k l : Nat}
    (hns : ∀ n ∈ ns, o + k + 4 + p.bytes.length + 1 < n.1.stop)
    (h : Follows g m ((p.name? (o + k + 4)).toList ++ ns) o o' (k + 4 + (p.bytes.length + 1 + l))) :
    ((o' + k : Nat) : Int) = m (o + k) ∧
      Option.Rel (MovesSpan m) (p.span? (o + k + 4)) ((p.rename g).span? (o' + k + 4)) ∧
      Follows g m ns (o + k + 4 + p.bytes.length + 1)
        (o' + k + 4 + (p.rename g).bytes.length + 1) l := by
  have hgrown := p.length_rename (g := g) (o + k + 4)
  have hpart : ∀ n ∈ (p.name? (o + k + 4)).toList,
      o + k + 4 < n.1.stop ∧ n.1.stop ≤ o + k + 4 + p.bytes.length :=
    fun n hn => NamePart.bounds_of_mem_name? hn
  obtain ⟨hfront, hrest⟩ : Follows g m [] o o' (k + 4) ∧
      Follows g m ((p.name? (o + k + 4)).toList ++ ns) (o + k + 4) (o' + k + 4)
        (p.bytes.length + 1 + l) := by
    refine Follows.split h (by omega) (by simp; omega) (by simp) fun n hn => ?_
    rcases List.mem_append.mp hn with hn | hn
    · exact (hpart n hn).1
    · have hlt := hns n hn
      omega
  obtain ⟨hname, hlater⟩ : Follows g m (p.name? (o + k + 4)).toList (o + k + 4) (o' + k + 4)
        (p.bytes.length + 1) ∧
      Follows g m ns (o + k + 4 + p.bytes.length + 1)
        (o' + k + 4 + (p.rename g).bytes.length + 1) l := by
    refine Follows.split hrest (by omega) (by omega) (fun n hn => ?_) hns
    have hle := (hpart n hn).2
    omega
  exact ⟨hfront.apply_nil (Nat.le_add_right _ _),
    NamePart.moves_span? hp (Nat.le_succ _) hname, hlater⟩

/-- A scan of the layout with other names finds its calls moved by `m`. -/
theorem moves {m : Nat → Int} {t : Layout} (ht : t.Sound) {o o' : Nat}
    (hm : Follows g m (t.names o) o o' t.bytes.length) :
    List.Forall₂ (MovesCall m) (t.calls o) ((t.rename g).calls o') ∧
      Option.Rel (fun u u' : Nat => (u' : Int) = m u) (t.cutAt? o) ((t.rename g).cutAt? o') := by
  induction t generalizing o o' with
  | plain text => exact ⟨List.Forall₂.nil, Option.Rel.none⟩
  | cut gap word rest =>
    refine ⟨List.Forall₂.nil, Option.Rel.some ?_⟩
    exact hm.apply_nil (by simp only [bytes, List.length_append]; omega)
  | call gap word part after iha =>
    obtain ⟨-, hword, hpart, hafter⟩ := ht
    have hlen : (call gap word part after).bytes.length =
        gap.length + 4 + (part.bytes.length + 1 + after.bytes.length) := by
      simp only [bytes, List.length_append, List.length_cons, hword.length]
      omega
    have hlater : ∀ n ∈ after.names (o + gap.length + 4 + part.bytes.length + 1),
        o + gap.length + 4 + part.bytes.length + 1 < n.1.stop :=
      fun n hn => (bounds_of_mem_names hafter hn).1
    rw [hlen] at hm
    obtain ⟨hstart, hname, hrest⟩ := Follows.head hpart.split hlater hm
    obtain ⟨hcalls, hcut⟩ := iha hafter hrest
    exact ⟨List.Forall₂.cons ⟨⟨hstart, hrest.apply_start hlater⟩, hname, Option.Rel.none⟩ hcalls,
      hcut⟩
  | callWith gap word part fallback after ihf iha =>
    obtain ⟨-, hword, hpart, ⟨hfallback, -⟩, hafter⟩ := ht
    have hlen : (callWith gap word part fallback after).bytes.length =
        gap.length + 4 + (part.bytes.length + 1 +
          (fallback.bytes.length + 1 + after.bytes.length)) := by
      simp only [bytes, List.length_append, List.length_cons, hword.length]
      omega
    have hinner : ∀ n ∈ fallback.names (o + gap.length + 4 + part.bytes.length + 1),
        o + gap.length + 4 + part.bytes.length + 1 < n.1.stop ∧
          n.1.stop ≤ o + gap.length + 4 + part.bytes.length + 1 + fallback.bytes.length :=
      fun n hn => bounds_of_mem_names hfallback hn
    have hlater : ∀ n ∈ after.names
          (o + gap.length + 4 + part.bytes.length + 1 + fallback.bytes.length + 1),
        o + gap.length + 4 + part.bytes.length + 1 + fallback.bytes.length + 1 < n.1.stop :=
      fun n hn => (bounds_of_mem_names hafter hn).1
    have hgrown := fallback.length_rename (g := g) (o + gap.length + 4 + part.bytes.length + 1)
    rw [hlen] at hm
    obtain ⟨hstart, hname, hrest⟩ := Follows.head hpart.split (fun n hn => by
      rcases List.mem_append.mp hn with hn | hn
      · exact (hinner n hn).1
      · have hlt := hlater n hn
        omega) hm
    obtain ⟨hmid, hend⟩ : Follows g m (fallback.names (o + gap.length + 4 + part.bytes.length + 1))
          (o + gap.length + 4 + part.bytes.length + 1)
          (o' + gap.length + 4 + (part.rename g).bytes.length + 1) (fallback.bytes.length + 1) ∧
        Follows g m (after.names
            (o + gap.length + 4 + part.bytes.length + 1 + fallback.bytes.length + 1))
          (o + gap.length + 4 + part.bytes.length + 1 + fallback.bytes.length + 1)
          (o' + gap.length + 4 + (part.rename g).bytes.length + 1 +
            (fallback.rename g).bytes.length + 1) after.bytes.length :=
      Follows.split hrest rfl (by omega) (fun n hn => Nat.le_succ_of_le (hinner n hn).2) hlater
    have hopen := hmid.apply_start fun n hn => (hinner n hn).1
    have hclose := hmid.apply_end (Nat.le_succ _) fun n hn => (hinner n hn).2
    obtain ⟨hcalls, -⟩ := ihf hfallback fun x hox hxl => hmid x hox (Nat.le_succ_of_le hxl)
    obtain ⟨hcalls', hcut⟩ := iha hafter hend
    refine ⟨List.Forall₂.cons ⟨⟨hstart, hend.apply_start hlater⟩, hname, ?_⟩
      (List.rel_append hcalls hcalls'), hcut⟩
    refine Option.Rel.some ⟨hopen, ?_⟩
    dsimp only
    omega

end Layout

end CustomProps.Value
