import CustomProps.Proofs.Value.Layout
/-!
# The states of a search

A search starts with one frame, all of the value. The frames that it opens lie one in another: each
ends before the place where the search of the next one is to go on. A frame that is not the whole
value holds the rest of a fallback, in which no parenthesis stays open, so that no call in it is
without its end.
-/
namespace CustomProps.Value

/-- The search of the frame has not passed its end, and a word may begin where it goes on. -/
structure Frame.Ready {b : ByteArray} (f : Frame b) : Prop where
  le : f.cursor ≤ f.stop
  begins : beginsWord b f.cursor (Nat.le_trans le f.stop_le) = true

/-- Below some open parentheses, a reader gets through the rest of the frame and closes them all. -/
def Frame.Balanced {b : ByteArray} (f : Frame b) : Prop :=
  ∃ d, Nesting.read? ⟨.outside, d⟩ (between b f.cursor f.stop) = some .top

theorem Frame.balanced_mk {b : ByteArray} {i stop : Nat} {hs : stop ≤ b.size} :
    (⟨i, stop, hs⟩ : Frame b).Balanced ↔
      ∃ d, Nesting.read? ⟨.outside, d⟩ (between b i stop) = some .top := Iff.rfl

namespace Search

variable {b : ByteArray} {s t : Search b}

/-- The states that a search goes through. -/
inductive Reachable (b : ByteArray) : Search b → Prop where
  | start : Reachable b (Search.start b)
  | step {s t : Search b} (h : Reachable b s) (hstep : s.step = .inl t) : Reachable b t

theorem Reachable.run_eq (h : Reachable b s) : s.run = (Search.start b).run := by
  induction h with
  | start => rfl
  | step _ hstep ih => rw [← run_of_step_inl hstep, ih]

/-- From every state that is reached, the search reaches one in which it ends. -/
theorem Reachable.exists_end (h : Reachable b s) :
    ∃ t, Reachable b t ∧ t.step = .inr (Search.start b).run := by
  induction hroom : s.room using Nat.strongRecOn generalizing s with
  | _ room ih =>
    cases hstep : s.step with
    | inl t =>
      have hlt := room_step_lt hstep
      exact ih t.room (by omega) (h.step hstep) rfl
    | inr found =>
      have hrun := run_of_step_inr hstep
      rw [h.run_eq] at hrun
      exact ⟨s, h, by rw [hstep, hrun]⟩

/-- Frames as a search leaves them, one in another. -/
structure Nested (s : Search b) : Prop where
  ready : ∀ f ∈ s.frames, f.Ready
  balanced : ∀ f ∈ s.frames, f.stop = b.size ∨ f.Balanced
  apart : s.frames.Pairwise fun f g => f.stop < g.cursor

theorem nested_start (b : ByteArray) : (start b).Nested where
  ready := List.forall_mem_singleton.mpr ⟨Nat.zero_le _, beginsWord_zero⟩
  balanced := List.forall_mem_singleton.mpr (Or.inl rfl)
  apart := List.pairwise_singleton _ _

section Frames

variable {f g : Frame b} {below : List (Frame b)} {calls calls' : Array Call}

theorem Nested.pop (h : (⟨f :: below, calls⟩ : Search b).Nested) :
    (⟨below, calls'⟩ : Search b).Nested where
  ready := (List.forall_mem_cons.mp h.ready).2
  balanced := (List.forall_mem_cons.mp h.balanced).2
  apart := h.apart.of_cons

/-- A frame whose search goes on further right. -/
theorem Nested.advance (h : (⟨f :: below, calls⟩ : Search b).Nested) (hstop : g.stop = f.stop)
    (hready : g.Ready) (hbalanced : f.Balanced → g.Balanced) :
    (⟨g :: below, calls'⟩ : Search b).Nested where
  ready := List.forall_mem_cons.mpr ⟨hready, (List.forall_mem_cons.mp h.ready).2⟩
  balanced := by
    obtain ⟨hfirst, hrest⟩ := List.forall_mem_cons.mp h.balanced
    refine List.forall_mem_cons.mpr ⟨?_, hrest⟩
    rw [hstop]
    exact hfirst.imp_right hbalanced
  apart := by
    obtain ⟨hfirst, hrest⟩ := List.pairwise_cons.mp h.apart
    refine List.Pairwise.cons (fun k hk => ?_) hrest
    rw [hstop]
    exact hfirst k hk

/-- A frame for a text that ends before the innermost frame goes on. -/
theorem Nested.push (h : (⟨f :: below, calls⟩ : Search b).Nested) (hlt : g.stop < f.cursor)
    (hready : g.Ready) (hbalanced : g.Balanced) :
    (⟨g :: f :: below, calls'⟩ : Search b).Nested where
  ready := List.forall_mem_cons.mpr ⟨hready, h.ready⟩
  balanced := List.forall_mem_cons.mpr ⟨Or.inr hbalanced, h.balanced⟩
  apart := by
    refine List.Pairwise.cons (fun k hk => ?_) h.apart
    rcases List.mem_cons.mp hk with rfl | hk
    · exact hlt
    · have hfirst := (List.pairwise_cons.mp h.apart).1 k hk
      have hle := (h.ready f (List.mem_cons_self ..)).le
      omega

end Frames

/-- One step leaves the frames one in another. -/
theorem Nested.step (h : s.Nested) (hstep : s.step = .inl t) : t.Nested := by
  obtain ⟨frames, calls⟩ := s
  cases frames with
  | nil => cases hstep
  | cons f below =>
    obtain ⟨i, stop, hs⟩ := f
    obtain ⟨hi, hb⟩ := h.ready _ (List.mem_cons_self ..)
    obtain ⟨l, hl, hbytes⟩ := Layout.exists_sound (between b i stop)
    cases l with
    | plain text =>
      rw [step_plain below calls hi hb (by rw [← hbytes]; exact hl)] at hstep
      obtain rfl := Sum.inl.inj hstep
      exact h.pop
    | cut gap word rest =>
      obtain ⟨hgap, hword, hrest⟩ := hl
      rw [step_cut below calls hi hb hgap hword hrest hbytes.symm] at hstep
      cases hstep
    | call gap word part after =>
      obtain ⟨hgap, hword, hpart, -⟩ := hl
      obtain ⟨j, hj, -, hbj, hrest, hcall⟩ :=
        step_call below calls hi hb hgap hword hpart hbytes.symm
      rw [hcall] at hstep
      obtain rfl := Sum.inl.inj hstep
      refine h.advance rfl ⟨hj, hbj⟩ ?_
      rw [Frame.balanced_mk, Frame.balanced_mk, ← hbytes, hrest]
      rintro ⟨d, hd⟩
      exact Layout.exists_of_read?_call hgap hword hpart hd
    | callWith gap word part fallback after =>
      obtain ⟨hgap, hword, hpart, ⟨-, hclosed⟩, -⟩ := hl
      obtain ⟨m, k, hmk, hk, -, -, hbm, hbk, hinner, hrest, hcall⟩ :=
        step_callWith below calls hi hb hgap hword hpart hclosed hbytes.symm
      rw [hcall] at hstep
      obtain rfl := Sum.inl.inj hstep
      have hbehind : (⟨⟨k + 1, stop, hs⟩ :: below, calls⟩ : Search b).Nested := by
        refine h.advance rfl ⟨hk, hbk⟩ ?_
        rw [Frame.balanced_mk, Frame.balanced_mk, ← hbytes, hrest]
        rintro ⟨d, hd⟩
        exact Layout.exists_of_read?_callWith hgap hword hpart hclosed hd
      refine hbehind.push (Nat.lt_succ_self _) ⟨hmk, hbm⟩ ?_
      rw [Frame.balanced_mk, hinner]
      exact ⟨0, hclosed⟩

theorem Reachable.nested (h : Reachable b s) : s.Nested := by
  induction h with
  | start => exact nested_start b
  | step _ hstep ih => exact ih.step hstep

/-- A search goes on as long as its innermost frame is one in which no parenthesis stays open. -/
theorem exists_step_of_balanced {f : Frame b} (hready : f.Ready) (h : f.Balanced)
    (below : List (Frame b)) (calls : Array Call) :
    ∃ t, (⟨f :: below, calls⟩ : Search b).step = .inl t := by
  obtain ⟨i, stop, hs⟩ := f
  obtain ⟨hi, hb⟩ := hready
  obtain ⟨l, hl, hbytes⟩ := Layout.exists_sound (between b i stop)
  rw [Frame.balanced_mk, ← hbytes] at h
  obtain ⟨d, hd⟩ := h
  cases l with
  | plain text => exact ⟨_, step_plain below calls hi hb (by rw [← hbytes]; exact hl)⟩
  | cut gap word rest =>
    have hopen := Layout.cutAt?_eq_none_of_read? hl hd 0
    cases hopen
  | call gap word part after =>
    obtain ⟨hgap, hword, hpart, -⟩ := hl
    obtain ⟨_, _, _, _, _, hcall⟩ := step_call below calls hi hb hgap hword hpart hbytes.symm
    exact ⟨_, hcall⟩
  | callWith gap word part fallback after =>
    obtain ⟨hgap, hword, hpart, ⟨-, hclosed⟩, -⟩ := hl
    obtain ⟨_, _, _, _, _, _, _, _, _, _, hcall⟩ :=
      step_callWith below calls hi hb hgap hword hpart hclosed hbytes.symm
    exact ⟨_, hcall⟩

/-- A call without its end is only found in the outermost frame. -/
theorem Nested.outermost (h : s.Nested) {found : Scan} {u : Nat} (hstep : s.step = .inr found)
    (hu : found.unterminatedAt = some u) : ∃ f, s.frames = [f] ∧ f.stop = b.size := by
  obtain ⟨frames, calls⟩ := s
  cases frames with
  | nil =>
    obtain rfl := Sum.inr.inj hstep
    cases hu
  | cons f below =>
    have hfirst := List.mem_cons_self (a := f) (l := below)
    have hunbalanced : ¬f.Balanced := by
      intro hbalanced
      obtain ⟨t, ht⟩ := exists_step_of_balanced (h.ready f hfirst) hbalanced below calls
      rw [ht] at hstep
      cases hstep
    have hwhole := (h.balanced f hfirst).resolve_right hunbalanced
    cases below with
    | nil => exact ⟨f, rfl, hwhole⟩
    | cons g below =>
      have hlt := (List.pairwise_cons.mp h.apart).1 g (List.mem_cons_self ..)
      have hle := (h.ready g (List.mem_cons_of_mem _ (List.mem_cons_self ..))).le
      have hsize := g.stop_le
      omega

end Search
end CustomProps.Value
