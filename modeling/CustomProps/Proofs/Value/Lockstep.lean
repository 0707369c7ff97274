import CustomProps.Proofs.Value.Layout
/-!
# Two searches that count alike

The end of a call and the comma that parts its name from its fallback are found by two searches of
the same bytes, one with the call's own parenthesis open and up to the end of the frame, the other
without it and up to the end of the call. Written down visit by visit, the second takes the same way
as the first, always one parenthesis less deep, until it has its answer. What it leaves behind the
comma is balanced.
-/
namespace CustomProps.Value

/-! ### Strings under two bounds -/

section Strings

variable {b : ByteArray} {stop k : Nat} (hs : stop ≤ b.size)

theorem stringEnd_eq_of_le (hk : k < stop) {hks : k ≤ b.size} {quote : UInt8} {i : Nat}
    (h : stringEnd b hs quote i ≤ k) : stringEnd b hks quote i = stringEnd b hs quote i := by
  fun_induction stringEnd b hs quote i with
  | case1 i hi hx ih =>
    have hmin := min_le_stringEnd b hs quote (i + 2)
    rw [stringEnd, dif_pos (by omega), if_pos hx, ih h]
  | case2 i hi hx hq => rw [stringEnd, dif_pos (by omega), if_neg hx, if_pos hq]
  | case3 i hi hx hq ih =>
    have hmin := min_le_stringEnd b hs quote (i + 1)
    rw [stringEnd, dif_pos (by omega), if_neg hx, if_neg hq, ih h]
  | case4 i hi => omega

/-- A string that ends below a bound ends at the same place under this bound. -/
theorem skipString_eq_of_le (hk : k < stop) {hks : k ≤ b.size} {i : Nat} (hi : i < k)
    (h : skipString b hs i (Nat.lt_trans hi hk) ≤ k) :
    skipString b hks i hi = skipString b hs i (Nat.lt_trans hi hk) :=
  stringEnd_eq_of_le hs hk h

/-- A string that does not run to the bound ends with its quote. -/
theorem exists_of_stringEnd_lt {quote : UInt8} {i : Nat} (h : stringEnd b hs quote i < stop) :
    ∃ p, ∃ hp : p < b.size, i ≤ p ∧ stringEnd b hs quote i = p + 1 ∧ b[p] = quote := by
  fun_induction stringEnd b hs quote i with
  | case1 i hi hx ih =>
    obtain ⟨p, hp, hip, hend, hquote⟩ := ih h
    exact ⟨p, hp, by omega, hend, hquote⟩
  | case2 i hi hx hq => exact ⟨i, by omega, Nat.le_refl _, rfl, hq⟩
  | case3 i hi hx hq ih =>
    obtain ⟨p, hp, hip, hend, hquote⟩ := ih h
    exact ⟨p, hp, by omega, hend, hquote⟩
  | case4 i hi => omega

end Strings

/-! ### Searches that write down their visits -/

/-- A byte outside strings that a search looks at, and the parentheses that it has open there. -/
structure Visit where
  index : Nat
  depth : Nat
deriving DecidableEq, Repr

/-- The same byte below one more open parenthesis. -/
def Visit.deeper (v : Visit) : Visit := ⟨v.index, v.depth + 1⟩

/-- The answer of a search, and its visits in their order. -/
structure Trace where
  answer : Option Nat
  visits : List Visit
deriving DecidableEq, Repr

/-- A trace that begins with one more visit. -/
def Trace.cons (v : Visit) (later : Trace) : Trace := ⟨later.answer, v :: later.visits⟩

section Traces

variable (b : ByteArray) {stop : Nat} (hs : stop ≤ b.size)

/-- The search for the parenthesis that closes the outermost of `depth` open ones. -/
def closeTrace (depth i : Nat) : Trace :=
  if h : i < stop then
    have hb : i < b.size := Nat.lt_of_lt_of_le h hs
    if Ascii.isQuote b[i] then (closeTrace depth (skipString b hs i h)).cons ⟨i, depth⟩
    else if b[i] = Ascii.openParen then (closeTrace (depth + 1) (i + 1)).cons ⟨i, depth⟩
    else if b[i] = Ascii.closeParen then
      if depth = 1 then ⟨some i, [⟨i, depth⟩]⟩ else (closeTrace (depth - 1) (i + 1)).cons ⟨i, depth⟩
    else (closeTrace depth (i + 1)).cons ⟨i, depth⟩
  else ⟨none, []⟩
termination_by stop - i
decreasing_by
  · have := lt_skipString b hs i h
    omega
  all_goals omega

/-- The search for the first comma outside all parentheses, `depth` of which are open before `i`. -/
def commaTrace (depth i : Nat) : Trace :=
  if h : i < stop then
    have hb : i < b.size := Nat.lt_of_lt_of_le h hs
    if Ascii.isQuote b[i] then (commaTrace depth (skipString b hs i h)).cons ⟨i, depth⟩
    else if b[i] = Ascii.openParen then (commaTrace (depth + 1) (i + 1)).cons ⟨i, depth⟩
    else if b[i] = Ascii.closeParen then (commaTrace (depth - 1) (i + 1)).cons ⟨i, depth⟩
    else if b[i] = Ascii.comma ∧ depth = 0 then ⟨some i, [⟨i, depth⟩]⟩
    else (commaTrace depth (i + 1)).cons ⟨i, depth⟩
  else ⟨none, []⟩
termination_by stop - i
decreasing_by
  · have := lt_skipString b hs i h
    omega
  all_goals omega

theorem answer_closeTrace (depth i : Nat) :
    (closeTrace b hs (depth + 1) i).answer = findClose? b hs depth i := by
  fun_induction findClose? b hs depth i with
  | case1 depth i hi hq ih => rw [closeTrace, dif_pos hi, if_pos hq, Trace.cons, ih]
  | case2 depth i hi hq ho ih => rw [closeTrace, dif_pos hi, if_neg hq, if_pos ho, Trace.cons, ih]
  | case3 i hi hq ho hc => rw [closeTrace, dif_pos hi, if_neg hq, if_neg ho, if_pos hc, if_pos rfl]
  | case4 i hi hq ho hc depth ih =>
    rw [closeTrace, dif_pos hi, if_neg hq, if_neg ho, if_pos hc, if_neg (by omega), Trace.cons,
      Nat.add_sub_cancel, ih]
  | case5 depth i hi hq ho hc ih =>
    rw [closeTrace, dif_pos hi, if_neg hq, if_neg ho, if_neg hc, Trace.cons, ih]
  | case6 depth i hi => rw [closeTrace, dif_neg hi]

theorem answer_commaTrace (depth i : Nat) :
    (commaTrace b hs depth i).answer = findComma? b hs depth i := by
  fun_induction findComma? b hs depth i with
  | case1 depth i hi hq ih => rw [commaTrace, dif_pos hi, if_pos hq, Trace.cons, ih]
  | case2 depth i hi hq ho ih => rw [commaTrace, dif_pos hi, if_neg hq, if_pos ho, Trace.cons, ih]
  | case3 depth i hi hq ho hc ih =>
    rw [commaTrace, dif_pos hi, if_neg hq, if_neg ho, if_pos hc, Trace.cons, ih]
  | case4 depth i hi hq ho hc hm =>
    rw [commaTrace, dif_pos hi, if_neg hq, if_neg ho, if_neg hc, if_pos hm]
  | case5 depth i hi hq ho hc hm ih =>
    rw [commaTrace, dif_pos hi, if_neg hq, if_neg ho, if_neg hc, if_neg hm, Trace.cons, ih]
  | case6 depth i hi => rw [commaTrace, dif_neg hi]

end Traces

/-! ### The way of the search for the end -/

section Close

variable {b : ByteArray} {stop : Nat} {hs : stop ≤ b.size}

theorem le_index_of_mem_closeTrace {depth i : Nat} {v : Visit}
    (hv : v ∈ (closeTrace b hs depth i).visits) : i ≤ v.index := by
  fun_induction closeTrace b hs depth i with
  | case1 depth i hi hb hq ih =>
    have hlt := lt_skipString b hs i hi
    rcases List.mem_cons.mp hv with rfl | hv
    · exact Nat.le_refl _
    · have := ih hv
      omega
  | case3 i hi hb hq ho hc =>
    obtain rfl := List.mem_singleton.mp hv
    exact Nat.le_refl _
  | case6 => cases hv
  | _ =>
    rcases List.mem_cons.mp hv with rfl | hv
    · exact Nat.le_refl _
    · have := ‹_ → _› hv
      omega

/-- A closing parenthesis that is visited with one open is the answer. -/
theorem answer_of_depth_eq_one {depth i : Nat} {v : Visit}
    (hv : v ∈ (closeTrace b hs depth i).visits) (hsize : v.index < b.size)
    (hparen : b[v.index] = Ascii.closeParen) (hdepth : v.depth = 1) :
    (closeTrace b hs depth i).answer = some v.index := by
  fun_induction closeTrace b hs depth i with
  | case1 depth i hi hb hq ih =>
    rcases List.mem_cons.mp hv with rfl | hv
    · exact absurd hparen (Ascii.ne_of_isQuote _ hq).2.1
    · exact ih hv
  | case2 depth i hi hb hq ho ih =>
    rcases List.mem_cons.mp hv with rfl | hv
    · exact absurd (hparen.symm.trans ho) Ascii.closeParen_ne_openParen
    · exact ih hv
  | case3 i hi hb hq ho hc =>
    obtain rfl := List.mem_singleton.mp hv
    rfl
  | case4 depth i hi hb hq ho hc hne ih =>
    rcases List.mem_cons.mp hv with rfl | hv
    · exact absurd hdepth hne
    · exact ih hv
  | case5 depth i hi hb hq ho hc ih =>
    rcases List.mem_cons.mp hv with rfl | hv
    · exact absurd hparen hc
    · exact ih hv
  | case6 => cases hv

theorem le_answer_closeTrace {depth i k : Nat}
    (h : (closeTrace b hs depth i).answer = some k) : i ≤ k := by
  fun_induction closeTrace b hs depth i with
  | case1 depth i hi hb hq ih =>
    have hlt := lt_skipString b hs i hi
    have := ih h
    omega
  | case3 i hi hb hq ho hc => exact Nat.le_of_eq (Option.some.inj h)
  | case6 => cases h
  | _ =>
    have := ‹_ → _› h
    omega

/-- No string that is visited on the way to an answer ends behind it. -/
theorem skipString_le_of_mem_closeTrace {depth i k : Nat} {v : Visit}
    (h : (closeTrace b hs depth i).answer = some k) (hv : v ∈ (closeTrace b hs depth i).visits)
    (hlt : v.index < stop) (hquote : Ascii.isQuote b[v.index] = true) :
    skipString b hs v.index hlt ≤ k := by
  fun_induction closeTrace b hs depth i with
  | case1 depth i hi hb hq ih =>
    rcases List.mem_cons.mp hv with rfl | hv
    · exact le_answer_closeTrace h
    · exact ih h hv
  | case3 i hi hb hq ho hc =>
    obtain rfl := List.mem_singleton.mp hv
    exact absurd hquote hq
  | case6 => cases hv
  | _ =>
    rcases List.mem_cons.mp hv with rfl | hv
    · exact absurd hquote ‹_›
    · exact ‹_ → _ → _› h hv

end Close

/-! ### One way for both searches -/

/-- The search for the comma visits what the search for the end visits up to its own answer, or up
to the end if it has none, always below one open parenthesis less. -/
def Alike (k : Nat) (comma close : Trace) : Prop :=
  comma.visits.map Visit.deeper =
    close.visits.filter fun v => v.index < comma.answer.elim k Nat.succ

theorem Alike.cons {k i d : Nat} {comma close : Trace} (h : Alike k comma close) (hik : i < k)
    (hanswer : ∀ c, comma.answer = some c → i ≤ c) :
    Alike k (comma.cons ⟨i, d⟩) (close.cons ⟨i, d + 1⟩) := by
  have hlt : i < comma.answer.elim k Nat.succ := by
    cases hc : comma.answer with
    | none => exact hik
    | some c => exact Nat.lt_succ_of_le (hanswer c hc)
  show Visit.deeper ⟨i, d⟩ :: comma.visits.map Visit.deeper =
    List.filter (fun v => v.index < comma.answer.elim k Nat.succ) (⟨i, d + 1⟩ :: close.visits)
  rw [List.filter_cons_of_pos (by simpa using hlt), h]
  rfl

section Alike

variable {b : ByteArray} {stop k : Nat} (hs : stop ≤ b.size) (hk : k < stop)

include hk in
theorem alike_of_findClose? (hks : k ≤ b.size) {depth i : Nat}
    (h : findClose? b hs depth i = some k) :
    Alike k (commaTrace b hks depth i) (closeTrace b hs (depth + 1) i) := by
  have hanswer : ∀ d j c, (commaTrace b hks d j).answer = some c → j ≤ c := by
    intro d j c hc
    rw [answer_commaTrace] at hc
    exact (findComma?_bounds hc).1
  fun_induction findClose? b hs depth i with
  | case1 depth i hi hq ih =>
    have hlt := lt_skipString b hs i hi
    have hle := (findClose?_bounds h).1
    have hskip : skipString b hks i (by omega) = skipString b hs i hi :=
      skipString_eq_of_le hs hk (by omega) hle
    rw [commaTrace, closeTrace, dif_pos (show i < k by omega), dif_pos hi, if_pos hq, if_pos hq,
      hskip]
    exact (ih h).cons (by omega) fun c hc => Nat.le_trans (Nat.le_of_lt hlt) (hanswer _ _ c hc)
  | case2 depth i hi hq ho ih =>
    have hle := (findClose?_bounds h).1
    rw [commaTrace, closeTrace, dif_pos (show i < k by omega), dif_pos hi, if_neg hq, if_neg hq,
      if_pos ho, if_pos ho]
    exact (ih h).cons (by omega) fun c hc => Nat.le_of_lt (hanswer _ _ c hc)
  | case3 i hi hq ho hc =>
    -- The end of the call is no place that the search for the comma looks at.
    obtain rfl := Option.some.inj h
    rw [commaTrace, closeTrace, dif_neg (Nat.lt_irrefl i), dif_pos hi, if_neg hq, if_neg ho,
      if_pos hc, if_pos rfl]
    simp [Alike]
  | case4 i hi hq ho hc depth ih =>
    have hle := (findClose?_bounds h).1
    rw [commaTrace, closeTrace, dif_pos (show i < k by omega), dif_pos hi, if_neg hq, if_neg hq,
      if_neg ho, if_neg ho, if_pos hc, if_pos hc, if_neg (by omega), Nat.add_sub_cancel]
    exact (ih h).cons (by omega) fun c hc => Nat.le_of_lt (hanswer _ _ c hc)
  | case5 depth i hi hq ho hc ih =>
    have hle := (findClose?_bounds h).1
    rw [commaTrace, closeTrace, dif_pos (show i < k by omega), dif_pos hi, if_neg hq, if_neg hq,
      if_neg ho, if_neg ho, if_neg hc, if_neg hc]
    split
    · rename_i hm
      -- All that the search for the end visits from here on lies behind the comma.
      have hbehind : ∀ v ∈ (closeTrace b hs (depth + 1) (i + 1)).visits, ¬v.index < i + 1 :=
        fun v hv => Nat.not_lt.mpr (le_index_of_mem_closeTrace hv)
      have hnone : (closeTrace b hs (depth + 1) (i + 1)).visits.filter
          (fun v => v.index < i + 1) = [] :=
        List.filter_eq_nil_iff.mpr fun v hv => by simpa using hbehind v hv
      show [Visit.deeper ⟨i, depth⟩] = List.filter (fun v => v.index < i + 1) (_ :: _)
      rw [List.filter_cons_of_pos (by simp), hnone]
      rfl
    · exact (ih h).cons (by omega) fun c hc => Nat.le_of_lt (hanswer _ _ c hc)
  | case6 => cases h

end Alike

/-! ### What the end and the comma say of the text -/

section Read

variable {b : ByteArray} {stop : Nat} (hs : stop ≤ b.size) {i k : Nat}

theorem exists_findClose?_of_read?_eq_none (hi : i ≤ stop)
    (h : Nesting.top.read? (between b i stop) = none) :
    ∃ m, findClose? b hs 0 i = some m ∧ Nesting.top.read? (between b i m) = some .top := by
  obtain ⟨l₁, l₂, hbytes, htop⟩ := Nesting.exists_of_read?_eq_none h
  obtain ⟨hle, hfront, hrest⟩ := between_eq_append hs hi hbytes
  obtain ⟨hlt, hparen, -⟩ := between_eq_cons hs hle hrest
  rw [← hfront] at htop
  exact ⟨_, findClose?_eq_some (Nat.le_add_right _ _) hlt htop hparen, htop⟩

theorem read?_of_findClose? (h : findClose? b hs 0 i = some k) :
    Nesting.top.read? (between b i k) = some .top := by
  obtain ⟨hik, hk⟩ := findClose?_bounds h
  have hread : Nesting.top.read? (between b i stop) = none := by
    by_contra hne
    have hnone : findClose? b hs 0 i = none := findClose?_eq_none (by omega) hne
    rw [hnone] at h
    cases h
  obtain ⟨m, hm, htop⟩ := exists_findClose?_of_read?_eq_none hs (by omega) hread
  obtain rfl : m = k := Option.some.inj (hm.symm.trans h)
  exact htop

/-- Where a reader closes more parentheses than were opened, the one that closes them is found. -/
theorem exists_findClose?_of_read? {d : Nat} (hi : i ≤ stop)
    (h : Nesting.read? ⟨.outside, d + 1⟩ (between b i stop) = some .top) :
    ∃ m, m < stop ∧ findClose? b hs 0 i = some m := by
  cases hread : Nesting.top.read? (between b i stop) with
  | none =>
    obtain ⟨m, hm, -⟩ := exists_findClose?_of_read?_eq_none hs hi hread
    exact ⟨m, (findClose?_bounds hm).2, hm⟩
  | some t =>
    have hadd := Nesting.read?_add_depth hread (d + 1)
    simp only [Nesting.top, Nat.zero_add] at hadd h
    rw [hadd] at h
    simp only [Option.some.injEq, Nesting.mk.injEq] at h
    omega

theorem readPart?_of_findComma? {c : Nat} (hread : Nesting.top.read? (between b i stop) ≠ none)
    (h : findComma? b hs 0 i = some c) : Nesting.top.readPart? (between b i c) = some .top := by
  obtain ⟨hic, hc⟩ := findComma?_bounds h
  obtain ⟨t, ht⟩ := Option.ne_none_iff_exists'.mp hread
  rcases Nesting.exists_of_read?_eq_some ht with hpart | ⟨l₁, l₂, hbytes, htop⟩
  · have hnone : findComma? b hs 0 i = none :=
      findComma?_eq_none (by omega) (by
        rw [show (⟨.outside, 0⟩ : Nesting) = .top from rfl, hpart]
        exact Option.some_ne_none t)
    rw [hnone] at h
    cases h
  · obtain ⟨hle, hfront, hrest⟩ := between_eq_append hs (by omega) hbytes
    obtain ⟨hlt, hmark, -⟩ := between_eq_cons hs hle hrest
    have hfound : findComma? b hs 0 i = some (i + l₁.length) := by
      refine findComma?_eq_some (Nat.le_add_right _ _) hlt ?_ hmark
      rw [hfront]
      exact htop
    obtain rfl : i + l₁.length = c := Option.some.inj (hfound.symm.trans h)
    rw [hfront]
    exact htop

end Read

/-! ### What stands behind the comma -/

section Behind

variable {b : ByteArray} {k : Nat} {hk : k ≤ b.size} {i s : Nat}

theorem outside_of_findOpen? (h : findOpen? b hk i = some s) :
    Quoting.outside.after (between b i s) = .outside := by
  fun_induction findOpen? b hk i with
  | case1 i hi hq ih =>
    obtain ⟨hle, hlt⟩ := findOpen?_bounds h
    rw [outside_between_skipString hk (by omega) hq hle (by omega), ih h]
  | case2 i hi hq hx =>
    cases h
    rw [between_self]
    rfl
  | case3 i hi hq hx ih =>
    obtain ⟨hle, hlt⟩ := findOpen?_bounds h
    have hnext : Quoting.outside.next b[i] = .outside := by simp [Quoting.next, hq]
    rw [between_of_lt (by omega) (by omega), Quoting.after_cons, hnext, ih h]
  | case4 => cases h

/-- In a text that closes its strings and parentheses, a call that is found outside strings has its
end. -/
theorem exists_findClose?_of_balanced {low : Nat}
    (hread : Nesting.top.read? (between b low k) = some .top) (hlow : low ≤ i)
    (ho : Quoting.outside.after (between b low i) = .outside) (h : findOpen? b hk i = some s) :
    ∃ m, m < k ∧ findClose? b hk 0 (s + 4) = some m := by
  obtain ⟨his, hs4⟩ := findOpen?_bounds h
  have hword := isOpening_of_findOpen? h
  have hgap : Quoting.outside.after (between b low s) = .outside := by
    rw [← between_append hlow his, Quoting.after_append, ho, outside_of_findOpen? h]
  rw [← between_append (show low ≤ s + 4 by omega) hs4,
    ← between_append (show low ≤ s by omega) (Nat.le_add_right s 4), Nesting.read?_append,
    Nesting.read?_append] at hread
  obtain ⟨t, ht, hrest⟩ := Option.bind_eq_some_iff.mp hread
  obtain ⟨⟨q, d⟩, hfront, hopen⟩ := Option.bind_eq_some_iff.mp ht
  obtain rfl : q = .outside := (Nesting.quoting_of_read? hfront).trans hgap
  rw [Layout.read?_opening hword] at hopen
  obtain rfl := Option.some.inj hopen
  exact exists_findClose?_of_read? hk hs4 hrest

/-- In a text that closes its strings, a string that opens outside strings ends with its quote. -/
theorem exists_quote_of_closed {low stop p : Nat} (hs : stop ≤ b.size) (hks : k < stop)
    (hclosed : Quoting.outside.after (between b low k) = .outside) (hlow : low ≤ p) (hp : p < k)
    (hpb : p < b.size) (ho : Quoting.outside.after (between b low p) = .outside)
    (hq : Ascii.isQuote b[p] = true) :
    ∃ q, ∃ hqb : q < b.size, q < k ∧ p < q ∧ b[q] = b[p] ∧ skipString b hk p hp = q + 1 ∧
      Quoting.outside.after (between b p (q + 1)) = .outside := by
  have hrest : Quoting.outside.after (between b p k) = .outside := by
    rw [← between_append hlow (Nat.le_of_lt hp), Quoting.after_append, ho] at hclosed
    exact hclosed
  have hle : skipString b hs p (Nat.lt_trans hp hks) ≤ k :=
    skipString_le_of_outside hs (Nat.lt_trans hp hks) hq hp hrest
  obtain ⟨q, hqb, hpq, hend, hquote⟩ := exists_of_stringEnd_lt hs (Nat.lt_of_le_of_lt hle hks)
  have hend : skipString b hs p (Nat.lt_trans hp hks) = q + 1 := hend
  refine ⟨q, hqb, by omega, hpq, hquote, ?_, ?_⟩
  · rw [skipString_eq_of_le hs hks hp hle, hend]
  · rw [← hend]
    exact after_skipString hs (Nat.lt_trans hp hks) hq (by omega)

end Behind

/-! ### The two searches of a call -/

/-- From `body` on, the search for the comma below the end `k` of a call and the search for this end
take the same way. -/
structure InStep (b : ByteArray) {stop : Nat} (hs : stop ≤ b.size) (body k : Nat) (hk : k < stop)
    (hks : k ≤ b.size) : Prop where
  /-- The comma search visits what the end search visits up to the comma, or up to the end if there
  is no comma; at each place one parenthesis less is open. -/
  visits : (commaTrace b hks 0 body).visits.map Visit.deeper =
    (closeTrace b hs 1 body).visits.filter fun v =>
      v.index < (findComma? b hks 0 body).elim k Nat.succ
  /-- The strings that are visited before the end are skipped alike under both bounds. -/
  strings : ∀ v ∈ (closeTrace b hs 1 body).visits, ∀ hv : v.index < k,
    Ascii.isQuote b[v.index] = true →
      skipString b hks v.index hv = skipString b hs v.index (Nat.lt_trans hv hk)
  /-- Where the comma search visits a closing parenthesis, one is open. -/
  unsaturated : ∀ v ∈ (commaTrace b hks 0 body).visits, ∃ hv : v.index < k,
    b[v.index] = Ascii.closeParen → 0 < v.depth

/-- The text behind `c` and before `k` is closed in itself. -/
structure ClosedBehind (b : ByteArray) (c k : Nat) (hks : k ≤ b.size) : Prop where
  /-- A string that opens in the text ends in it, with its quote. -/
  strings : ∀ p, ∀ hpk : p < k, ∀ hp : p < b.size, c < p →
    Quoting.outside.after (between b (c + 1) p) = .outside → Ascii.isQuote b[p] = true →
      ∃ q, ∃ hq : q < b.size, q < k ∧ p < q ∧ b[q] = b[p] ∧ skipString b hks p hpk = q + 1 ∧
        Quoting.outside.after (between b p (q + 1)) = .outside
  /-- Outside strings its parentheses are balanced, and none closes that was not opened in it. -/
  balanced : Nesting.top.read? (between b (c + 1) k) = some .top
  /-- A call that is searched for outside strings has its end in the text. -/
  calls : ∀ i first, c < i → Quoting.outside.after (between b (c + 1) i) = .outside →
    findOpen? b hks i = some first → ∃ m, m < k ∧ findClose? b hks 0 (first + 4) = some m

section Call

variable {b : ByteArray} {stop body k : Nat} {hs : stop ≤ b.size} {hks : k ≤ b.size}

theorem inStep_of_findClose? (hk : k < stop) (h : findClose? b hs 0 body = some k) :
    InStep b hs body k hk hks := by
  have hanswer : (closeTrace b hs 1 body).answer = some k := by rw [answer_closeTrace, h]
  have halike := alike_of_findClose? hs hk hks h
  rw [Alike, answer_commaTrace] at halike
  refine ⟨halike, fun v hv hlt hq => ?_, fun v hv => ?_⟩
  · exact skipString_eq_of_le hs hk hlt
      (skipString_le_of_mem_closeTrace hanswer hv (Nat.lt_trans hlt hk) hq)
  · have hmem : v.deeper ∈ (closeTrace b hs 1 body).visits.filter fun v =>
        v.index < (findComma? b hks 0 body).elim k Nat.succ := by
      rw [← halike]
      exact List.mem_map_of_mem hv
    obtain ⟨hvisit, hlimit⟩ := List.mem_filter.mp hmem
    have hlimit : v.index < (findComma? b hks 0 body).elim k Nat.succ := of_decide_eq_true hlimit
    have hlt : v.index < k := by
      cases hm : findComma? b hks 0 body with
      | none =>
        rw [hm] at hlimit
        exact hlimit
      | some c =>
        rw [hm] at hlimit
        exact Nat.lt_of_lt_of_le hlimit (findComma?_bounds hm).2
    refine ⟨hlt, fun hparen => Nat.pos_of_ne_zero fun hdepth => ?_⟩
    have hone : v.deeper.depth = 1 := by rw [Visit.deeper, hdepth]
    have hend := answer_of_depth_eq_one hvisit (Nat.lt_of_lt_of_le hlt hks) hparen hone
    rw [hanswer] at hend
    exact Nat.ne_of_gt hlt (Option.some.inj hend)

theorem closedBehind_of_findComma? (hk : k < stop) (h : findClose? b hs 0 body = some k) {c : Nat}
    (hc : findComma? b hks 0 body = some c) : ClosedBehind b c k hks := by
  obtain ⟨hbody, hck⟩ := findComma?_bounds hc
  have hwhole := read?_of_findClose? hs h
  have hpart : Nesting.top.readPart? (between b body c) = some .top := by
    refine readPart?_of_findComma? hks ?_ hc
    rw [hwhole]
    exact Option.some_ne_none _
  obtain ⟨hcb, hcomma⟩ := getElem_of_findComma? hc
  have hbalanced : Nesting.top.read? (between b (c + 1) k) = some .top := by
    rw [← between_append hbody (Nat.le_of_lt hck), Nesting.read?_append,
      Nesting.read?_of_readPart? hpart, between_of_lt hck hks, hcomma] at hwhole
    exact hwhole
  refine ⟨fun p hpk hp hcp ho hq => ?_, hbalanced, fun i first hci ho hopen => ?_⟩
  · exact exists_quote_of_closed hs hk (Nesting.after_of_read? hbalanced) hcp hpk hp ho hq
  · exact exists_findClose?_of_balanced hbalanced hci ho hopen

/-- The searches for the end of a call and for its comma count alike. Under whatever bound the end
is found, the search for the comma below it takes the same way, one parenthesis less deep, and no
parenthesis closes more than it has open. And where it has found a comma, the text between comma and
end is closed in itself, so that every call in it has its end there. -/
theorem counts_alike (hs : stop ≤ b.size) (h : findClose? b hs 0 body = some k) :
    ∃ hk : k < stop, ∃ hks : k ≤ b.size,
      (closeTrace b hs 1 body).answer = findClose? b hs 0 body ∧
      (commaTrace b hks 0 body).answer = findComma? b hks 0 body ∧
      InStep b hs body k hk hks ∧
      ∀ c, findComma? b hks 0 body = some c → ClosedBehind b c k hks := by
  have hk := (findClose?_bounds h).2
  have hks : k ≤ b.size := Nat.le_trans (Nat.le_of_lt hk) hs
  exact ⟨hk, hks, answer_closeTrace b hs 0 body, answer_commaTrace b hks 0 body,
    inStep_of_findClose? hk h, fun c hc => closedBehind_of_findComma? hk h hc⟩

/-- A call with a parenthesis in a string, a group in front of its comma and a call behind it. -/
theorem counts_alike_in_call :
    let b := "var(--a f(\")\"), var(--b)) x".toByteArray
    findClose? b (Nat.le_refl b.size) 0 4 = some 24 ∧
      ∃ hk : 24 < b.size, ∃ hks : 24 ≤ b.size,
        InStep b (Nat.le_refl b.size) 4 24 hk hks ∧ findComma? b hks 0 4 = some 14 ∧
          ClosedBehind b 14 24 hks := by
  intro b
  have hclose : findClose? b (Nat.le_refl b.size) 0 4 = some 24 := by decide +kernel
  obtain ⟨hk, hks, -, -, hstep, hbehind⟩ := counts_alike _ hclose
  have hcomma : findComma? b (show 24 ≤ b.size by decide +kernel) 0 4 = some 14 := by
    decide +kernel
  exact ⟨hclose, hk, hks, hstep, hcomma, hbehind 14 hcomma⟩

end Call
end CustomProps.Value

