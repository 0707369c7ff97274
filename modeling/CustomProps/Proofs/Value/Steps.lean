import CustomProps.Proofs.Value.NamePart
/-!
# One step of the search

What one step of the search for calls does to the innermost frame, said of the text that the frame
has still to read: the text holds no call, or it holds one that does not close, or one without a
fallback, or one with a fallback.
-/
namespace CustomProps.Value

/-- The text in front of a call: it holds no site, closes its strings, and a word may begin after
it. -/
structure Gap (l : List UInt8) : Prop where
  noSite : ∀ n, ¬Site l n
  closed : Quoting.outside.after l = .outside
  begins : ¬EndsIdent l

theorem Gap.nil : Gap [] where
  noSite := by
    intro n h
    have hlen := h.add_four_le
    simp at hlen
  closed := rfl
  begins := not_endsIdent_nil

section Parts

variable {b : ByteArray}

theorem beginsWord_succ {j : Nat} (hj : j < b.size) (hx : Ascii.isIdent b[j] = false) :
    beginsWord b (j + 1) hj = true := by
  simp [beginsWord, hx]

theorem beginsWord_zero : beginsWord b 0 (Nat.zero_le _) = true := by
  simp [beginsWord]

variable {stop : Nat}

theorem between_word {i : Nat} {gap word rest : List UInt8} (hs : stop ≤ b.size) (hi : i ≤ stop)
    (hword : IsOpening word) (h : between b i stop = gap ++ (word ++ rest)) :
    i + gap.length + 4 ≤ stop ∧ between b i (i + gap.length + 4) = gap ++ word ∧
      between b (i + gap.length + 4) stop = rest := by
  rw [← List.append_assoc] at h
  obtain ⟨hle, hfront, hrest⟩ := between_eq_append hs hi h
  rw [List.length_append, hword.length, ← Nat.add_assoc] at hle hfront hrest
  exact ⟨hle, hfront, hrest⟩

/-- Where the parts of a call lie, up to the byte behind its name part. -/
theorem between_head {i : Nat} {gap word rest : List UInt8} {p : NamePart} {x : UInt8}
    (hs : stop ≤ b.size) (hi : i ≤ stop) (hword : IsOpening word)
    (h : between b i stop = gap ++ (word ++ (p.bytes ++ x :: rest))) :
    between b (i + gap.length + 4) (i + gap.length + 4 + p.bytes.length) = p.bytes ∧
      between b (i + gap.length + 4 + p.bytes.length + 1) stop = rest ∧
      ∃ hlt : i + gap.length + 4 + p.bytes.length < stop,
        b[i + gap.length + 4 + p.bytes.length] = x := by
  obtain ⟨hle, -, hbody⟩ := between_word hs hi hword h
  obtain ⟨hle', hpart, hmark⟩ := between_eq_append hs hle hbody
  obtain ⟨hlt, hx, hrest⟩ := between_eq_cons hs hle' hmark
  exact ⟨hpart, hrest, hlt, hx⟩

variable {hs : stop ≤ b.size}

theorem findOpen?_gap {i : Nat} {gap word rest : List UInt8} (hi : i ≤ stop)
    (hb : beginsWord b i (Nat.le_trans hi hs) = true) (hgap : Gap gap) (hword : IsOpening word)
    (h : between b i stop = gap ++ (word ++ rest)) :
    findOpen? b hs i = some (i + gap.length) := by
  obtain ⟨hsite, hfirst⟩ := first_site (m := rest) hgap.noSite hgap.closed hgap.begins hword
  refine findOpen?_of_site hi hb ?_ ?_
  · rw [h]
    exact hsite
  · rw [h]
    exact hfirst

end Parts

namespace Search

variable {b : ByteArray} {stop : Nat} {hs : stop ≤ b.size}

theorem run_of_step_inl {s t : Search b} (h : s.step = .inl t) : s.run = t.run := by
  rw [run]
  split
  · rename_i t' h'
    rw [h] at h'
    cases h'
    rfl
  · rename_i scan h'
    rw [h] at h'
    cases h'

theorem run_of_step_inr {s : Search b} {scan : Scan} (h : s.step = .inr scan) : s.run = scan := by
  rw [run]
  split
  · rename_i t h'
    rw [h] at h'
    cases h'
  · rename_i scan' h'
    rw [h] at h'
    cases h'
    rfl

theorem run_nil (calls : Array Call) : (⟨[], calls⟩ : Search b).run = ⟨calls.toList, none⟩ :=
  run_of_step_inr rfl

variable {below : List (Frame b)} {calls : Array Call} {i first close comma : Nat}

/-! What a step does, by what the searches answer. -/

theorem step_of_cut (ho : findOpen? b hs i = some first)
    (hc : findClose? b hs 0 (first + 4) = none) :
    (⟨⟨i, stop, hs⟩ :: below, calls⟩ : Search b).step = .inr ⟨calls.toList, some first⟩ := by
  unfold step
  simp only [ho]
  split
  · rfl
  · rename_i close hclose
    rw [hc] at hclose
    cases hclose

theorem step_of_call (hk : close ≤ b.size) (ho : findOpen? b hs i = some first)
    (hc : findClose? b hs 0 (first + 4) = some close) (hm : findComma? b hk 0 (first + 4) = none) :
    (⟨⟨i, stop, hs⟩ :: below, calls⟩ : Search b).step =
      .inl ⟨⟨close + 1, stop, hs⟩ :: below,
        calls.push ⟨⟨first, close + 1⟩, nameSpan? b (first + 4) close hk, none⟩⟩ := by
  unfold step
  simp only [ho]
  split
  · rename_i hnone
    rw [hc] at hnone
    cases hnone
  · rename_i close' hsome
    obtain rfl : close = close' := by
      rw [hc] at hsome
      exact Option.some.inj hsome
    split
    · rfl
    · rename_i comma hcomma
      rw [hm] at hcomma
      cases hcomma

theorem step_of_callWith (hk : close ≤ b.size) (hcomma : comma ≤ b.size)
    (ho : findOpen? b hs i = some first) (hc : findClose? b hs 0 (first + 4) = some close)
    (hm : findComma? b hk 0 (first + 4) = some comma) :
    (⟨⟨i, stop, hs⟩ :: below, calls⟩ : Search b).step =
      .inl ⟨⟨comma + 1, close, hk⟩ :: ⟨close + 1, stop, hs⟩ :: below,
        calls.push ⟨⟨first, close + 1⟩, nameSpan? b (first + 4) comma hcomma,
          some ⟨comma + 1, close⟩⟩⟩ := by
  unfold step
  simp only [ho]
  split
  · rename_i hnone
    rw [hc] at hnone
    cases hnone
  · rename_i close' hsome
    obtain rfl : close = close' := by
      rw [hc] at hsome
      exact Option.some.inj hsome
    split
    · rename_i hnone
      rw [hm] at hnone
      cases hnone
    · rename_i comma' hsome'
      obtain rfl : comma = comma' := by
        rw [hm] at hsome'
        exact Option.some.inj hsome'
      rfl

end Search

/-! ### What the searches answer, by the text that is left -/

section Answers

variable {b : ByteArray} {stop : Nat} (hs : stop ≤ b.size) {i : Nat} {gap word rest : List UInt8}

theorem findClose?_of_cut (hi : i ≤ stop) (hword : IsOpening word)
    (hrest : Nesting.top.read? rest ≠ none) (h : between b i stop = gap ++ (word ++ rest)) :
    findClose? b hs 0 (i + gap.length + 4) = none := by
  obtain ⟨hle, -, hbody⟩ := between_word hs hi hword h
  refine findClose?_eq_none hle ?_
  rw [hbody]
  exact hrest

/-- Where a call without a fallback lies, and what the searches answer there. -/
theorem answers_call {p : NamePart} (hi : i ≤ stop) (hword : IsOpening word) (hp : p.Sound)
    (h : between b i stop = gap ++ (word ++ (p.bytes ++ Ascii.closeParen :: rest))) :
    ∃ close, ∃ hk : close < stop, ∃ hb : close < b.size,
      close = i + gap.length + 4 + p.bytes.length ∧
      b[close] = Ascii.closeParen ∧ between b (close + 1) stop = rest ∧
      findClose? b hs 0 (i + gap.length + 4) = some close ∧
      findComma? b (Nat.le_trans (Nat.le_of_lt hk) hs) 0 (i + gap.length + 4) = none ∧
      nameSpan? b (i + gap.length + 4) close (Nat.le_trans (Nat.le_of_lt hk) hs) =
        p.span? (i + gap.length + 4) := by
  obtain ⟨hpart, hrest, hlt, hclose⟩ := between_head hs hi hword h
  refine ⟨_, hlt, Nat.lt_of_lt_of_le hlt hs, rfl, hclose, hrest, ?_, ?_, ?_⟩
  · refine findClose?_eq_some (Nat.le_add_right _ _) hlt ?_ hclose
    rw [hpart]
    exact Nesting.read?_of_readPart? hp.closed
  · refine findComma?_eq_none (Nat.le_add_right _ _) ?_
    rw [hpart, show (⟨.outside, 0⟩ : Nesting) = .top from rfl, hp.closed]
    exact Option.some_ne_none _
  · exact nameSpan?_eq (Nat.le_add_right _ _) hpart hp.split

/-- Where a call and its fallback lie, and what the searches answer there. -/
theorem answers_callWith {inner : List UInt8} {p : NamePart} (hi : i ≤ stop)
    (hword : IsOpening word) (hp : p.Sound) (hinner : Nesting.top.read? inner = some .top)
    (h : between b i stop = gap ++ (word ++ (p.bytes ++ Ascii.comma :: (inner ++
      Ascii.closeParen :: rest)))) :
    ∃ comma close, ∃ hmk : comma + 1 ≤ close, ∃ hk : close < stop,
      comma = i + gap.length + 4 + p.bytes.length ∧ close = comma + 1 + inner.length ∧
      b[comma] = Ascii.comma ∧ b[close] = Ascii.closeParen ∧ between b (comma + 1) close = inner ∧
      between b (close + 1) stop = rest ∧
      findClose? b hs 0 (i + gap.length + 4) = some close ∧
      findComma? b (Nat.le_trans (Nat.le_of_lt hk) hs) 0 (i + gap.length + 4) = some comma ∧
      nameSpan? b (i + gap.length + 4) comma
        (Nat.le_trans (Nat.le_of_lt hmk) (Nat.le_trans (Nat.le_of_lt hk) hs)) =
          p.span? (i + gap.length + 4) := by
  obtain ⟨hpart, hfallback, hlt, hcomma⟩ := between_head hs hi hword h
  obtain ⟨hle, hin, hbehind⟩ := between_eq_append hs hlt hfallback
  obtain ⟨hk, hclose, hrest⟩ := between_eq_cons hs hle hbehind
  have hbody : between b (i + gap.length + 4)
      (i + gap.length + 4 + p.bytes.length + 1 + inner.length) =
        p.bytes ++ Ascii.comma :: inner := by
    rw [← between_append (j := i + gap.length + 4 + p.bytes.length) (by omega) (by omega), hpart,
      between_of_lt (i := i + gap.length + 4 + p.bytes.length) (by omega) (by omega), hin, hcomma]
  refine ⟨_, _, Nat.le_add_right _ _, hk, rfl, rfl, hcomma, hclose, hin, hrest, ?_, ?_, ?_⟩
  · refine findClose?_eq_some (by omega) hk ?_ hclose
    rw [hbody, Nesting.read?_append, show (⟨.outside, 0⟩ : Nesting) = .top from rfl,
      Nesting.read?_of_readPart? hp.closed]
    exact hinner
  · refine findComma?_eq_some (Nat.le_add_right _ _) (by omega) ?_ hcomma
    rw [hpart]
    exact hp.closed
  · exact nameSpan?_eq (Nat.le_add_right _ _) hpart hp.split

end Answers

/-! ### One step, by the text that is left -/

namespace Search

variable {b : ByteArray} {stop : Nat} {hs : stop ≤ b.size} {i : Nat} {gap word rest : List UInt8}
variable (below : List (Frame b)) (calls : Array Call)

theorem step_plain (hi : i ≤ stop) (hb : beginsWord b i (Nat.le_trans hi hs) = true)
    (h : ∀ n, ¬Site (between b i stop) n) :
    (⟨⟨i, stop, hs⟩ :: below, calls⟩ : Search b).step = .inl ⟨below, calls⟩ := by
  have ho : findOpen? b hs i = none := findOpen?_of_forall_not_site hi hb h
  simp [step, ho]

theorem step_cut (hi : i ≤ stop) (hb : beginsWord b i (Nat.le_trans hi hs) = true)
    (hgap : Gap gap) (hword : IsOpening word) (hrest : Nesting.top.read? rest ≠ none)
    (h : between b i stop = gap ++ (word ++ rest)) :
    (⟨⟨i, stop, hs⟩ :: below, calls⟩ : Search b).step =
      .inr ⟨calls.toList, some (i + gap.length)⟩ :=
  step_of_cut (findOpen?_gap hi hb hgap hword h) (findClose?_of_cut hs hi hword hrest h)

theorem step_call {p : NamePart} (hi : i ≤ stop)
    (hb : beginsWord b i (Nat.le_trans hi hs) = true) (hgap : Gap gap) (hword : IsOpening word)
    (hp : p.Sound)
    (h : between b i stop = gap ++ (word ++ (p.bytes ++ Ascii.closeParen :: rest))) :
    ∃ j, ∃ hj : j ≤ stop, j = i + gap.length + 4 + p.bytes.length + 1 ∧
      beginsWord b j (Nat.le_trans hj hs) = true ∧ between b j stop = rest ∧
      (⟨⟨i, stop, hs⟩ :: below, calls⟩ : Search b).step =
        .inl ⟨⟨j, stop, hs⟩ :: below,
          calls.push ⟨⟨i + gap.length, j⟩, p.span? (i + gap.length + 4), none⟩⟩ := by
  obtain ⟨close, hk, hlt, rfl, hclose, hrest, hc, hm, hn⟩ := answers_call hs hi hword hp h
  refine ⟨_, hk, rfl, beginsWord_succ _ (by rw [hclose]; decide), hrest, ?_⟩
  rw [step_of_call _ (findOpen?_gap hi hb hgap hword h) hc hm, hn]

/-- A call with a fallback is taken up; its fallback becomes the innermost frame. -/
theorem step_callWith {inner : List UInt8} {p : NamePart} (hi : i ≤ stop)
    (hb : beginsWord b i (Nat.le_trans hi hs) = true) (hgap : Gap gap) (hword : IsOpening word)
    (hp : p.Sound) (hinner : Nesting.top.read? inner = some .top)
    (h : between b i stop = gap ++ (word ++ (p.bytes ++ Ascii.comma :: (inner ++
      Ascii.closeParen :: rest)))) :
    ∃ m k, ∃ hmk : m ≤ k, ∃ hk : k < stop, m = i + gap.length + 4 + p.bytes.length + 1 ∧
      k = m + inner.length ∧
      beginsWord b m (Nat.le_trans hmk (Nat.le_trans (Nat.le_of_lt hk) hs)) = true ∧
      beginsWord b (k + 1) (Nat.le_trans hk hs) = true ∧ between b m k = inner ∧
      between b (k + 1) stop = rest ∧
      (⟨⟨i, stop, hs⟩ :: below, calls⟩ : Search b).step =
        .inl ⟨⟨m, k, Nat.le_trans (Nat.le_of_lt hk) hs⟩ :: ⟨k + 1, stop, hs⟩ :: below,
          calls.push ⟨⟨i + gap.length, k + 1⟩, p.span? (i + gap.length + 4), some ⟨m, k⟩⟩⟩ := by
  obtain ⟨comma, close, hmk, hk, rfl, rfl, hcomma, hclose, hin, hrest, hc, hm, hn⟩ :=
    answers_callWith hs hi hword hp hinner h
  refine ⟨_, _, hmk, hk, rfl, rfl, beginsWord_succ _ (by rw [hcomma]; decide),
    beginsWord_succ _ (by rw [hclose]; decide), hin, hrest, ?_⟩
  rw [step_of_callWith _ (by omega) (findOpen?_gap hi hb hgap hword h) hc hm, hn]

end Search
end CustomProps.Value
