import CustomProps.Proofs.Value.Frames
/-!
# Why a search ends

A step that does not end the search closes the innermost frame, or it passes the next call of this
frame and opens a frame for the fallback of the call, inside the text that was passed. Either way
less text is left in the frames than before, so there are at most as many steps as the value has
bytes, and one more.
-/
namespace CustomProps.Value.Search

variable {b : ByteArray} {s t : Search b} {n : Nat}

/-! ### One step -/

/-- What a step does that does not end the search. -/
inductive Advances : Search b → Search b → Prop where
  /-- No call is left in the innermost frame, and the frame is closed. -/
  | close (f : Frame b) (below : List (Frame b)) (calls : Array Call)
      (hopen : findOpen? b f.stop_le f.cursor = none) :
      Advances ⟨f :: below, calls⟩ ⟨below, calls⟩
  /-- The innermost frame goes on behind the parenthesis that ends its next call. The fallback of
  the call becomes a frame, which lies within the text that was passed. -/
  | pass (f : Frame b) (below : List (Frame b)) (calls : Array Call) (c : Call)
      (pushed : Option (Frame b)) {last : Nat} (hstart : f.cursor ≤ c.span.start)
      (hstop : c.span.stop = last + 1) (hlast : last < f.stop)
      (hparen : ∃ h : last < b.size, b[last] = Ascii.closeParen)
      (hfallback : c.fallback = pushed.map fun g => ⟨g.cursor, g.stop⟩)
      (hpushed : ∀ g ∈ pushed, c.span.start < g.cursor ∧ g.cursor ≤ g.stop ∧ g.stop = last) :
      Advances ⟨f :: below, calls⟩
        ⟨pushed.toList ++ { f with cursor := last + 1 } :: below, calls.push c⟩

theorem advances_of_step (h : s.step = .inl t) : s.Advances t := by
  obtain ⟨frames, calls⟩ := s
  cases frames with
  | nil => cases h
  | cons f below =>
    obtain ⟨i, stop, hs⟩ := f
    cases ho : findOpen? b hs i with
    | none =>
      have hstep : (⟨⟨i, stop, hs⟩ :: below, calls⟩ : Search b).step = .inl ⟨below, calls⟩ := by
        simp [step, ho]
      rw [hstep] at h
      cases h
      exact .close _ below calls ho
    | some first =>
      obtain ⟨hfirst, -⟩ := findOpen?_bounds ho
      cases hc : findClose? b hs 0 (first + 4) with
      | none =>
        rw [step_of_cut ho hc] at h
        cases h
      | some last =>
        obtain ⟨-, hlast⟩ := findClose?_bounds hc
        have hparen := getElem_of_findClose? hc
        have hk : last ≤ b.size := by omega
        cases hm : findComma? b hk 0 (first + 4) with
        | none =>
          rw [step_of_call hk ho hc hm] at h
          cases h
          refine .pass ⟨i, stop, hs⟩ below calls _ none hfirst rfl hlast hparen rfl fun g hg => ?_
          cases hg
        | some comma =>
          obtain ⟨hbody, hcomma⟩ := findComma?_bounds hm
          rw [step_of_callWith hk (by omega) ho hc hm] at h
          cases h
          refine .pass ⟨i, stop, hs⟩ below calls _ (some ⟨comma + 1, last, hk⟩) hfirst rfl hlast
            hparen rfl fun g hg => ?_
          cases hg
          exact ⟨by dsimp only; omega, hcomma, rfl⟩

/-! ### All steps -/

/-- The search comes to `s` by its first `n` steps. -/
inductive After (b : ByteArray) : Nat → Search b → Prop where
  | start : After b 0 (Search.start b)
  | step {n : Nat} {s t : Search b} (h : After b n s) (hstep : s.step = .inl t) : After b (n + 1) t

theorem After.add_room_le (h : After b n s) : n + s.room ≤ b.size + 1 := by
  induction h with
  | start => simp [room, Search.start]
  | step _ hstep ih =>
    have hlt := room_step_lt hstep
    omega

theorem Reachable.exists_after (h : Reachable b s) : ∃ n, After b n s := by
  induction h with
  | start => exact ⟨0, .start⟩
  | step _ hstep ih =>
    obtain ⟨n, hn⟩ := ih
    exact ⟨n + 1, hn.step hstep⟩

/-- The search of a value ends. In every state that it reaches, the frames lie in one another, each
with its end in front of the place where the next one goes on; every step that does not end the
search closes the innermost frame or passes a call of it, and leaves less text in the frames than
before. No search takes more than one step for each byte and one more, and skipping a string gets
ahead and stays within the bound, wherever a backslash stands. -/
theorem ends_by_progress (b : ByteArray) :
    (∀ s, Reachable b s →
      (∀ f ∈ s.frames, f.cursor ≤ f.stop ∧ f.stop ≤ b.size) ∧
        s.frames.Pairwise (fun f g => f.stop < g.cursor) ∧
        ∀ t, s.step = .inl t → s.Advances t ∧ t.room < s.room) ∧
      (∀ n s, After b n s → n ≤ b.size + 1) ∧
      (∃ n s, After b n s ∧ s.step = .inr (Search.start b).run) ∧
      ∀ (stop : Nat) (hs : stop ≤ b.size) (i : Nat) (hi : i < stop),
        i < skipString b hs i hi ∧ skipString b hs i hi ≤ stop := by
  refine ⟨fun s h => ⟨fun f hf => ⟨(h.nested.ready f hf).le, f.stop_le⟩, h.nested.apart, ?_⟩,
    fun n s h => ?_, ?_, fun stop hs i hi => ⟨lt_skipString b hs i hi, skipString_le b hs i hi⟩⟩
  · exact fun t hstep => ⟨advances_of_step hstep, room_step_lt hstep⟩
  · exact Nat.le_trans (Nat.le_add_right n s.room) h.add_room_le
  · obtain ⟨s, hs, hend⟩ := (Reachable.start (b := b)).exists_end
    obtain ⟨n, hn⟩ := hs.exists_after
    exact ⟨n, s, hn, hend⟩

/-- A step that passes a call with a fallback: the frame of the fallback ends in front of the place
where the frame of the value goes on. -/
theorem ends_by_progress_in_fallback :
    let b := "var(--a, var(--b)) x".toByteArray
    ∃ t, (Search.start b).step = .inl t ∧
      t.frames.map (fun f => (f.cursor, f.stop)) = [(8, 17), (18, 20)] ∧
      (Search.start b).Advances t ∧ t.frames.Pairwise fun f g => f.stop < g.cursor := by
  intro b
  have hframes : (Search.start b).step.getLeft?.map (fun t => t.frames.map fun f =>
      (f.cursor, f.stop)) = some [(8, 17), (18, 20)] := by
    decide +kernel
  obtain ⟨t, hleft, ht⟩ := Option.map_eq_some_iff.mp hframes
  have hstep := Sum.getLeft?_eq_some_iff.mp hleft
  obtain ⟨hreached, -⟩ := ends_by_progress b
  obtain ⟨-, -, hadvances⟩ := hreached _ .start
  obtain ⟨-, hapart, -⟩ := hreached t (Reachable.start.step hstep)
  exact ⟨t, hstep, ht, (hadvances t hstep).1, hapart⟩

end CustomProps.Value.Search
