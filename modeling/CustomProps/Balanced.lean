/-!
Joining the items of a list two by two, round after round, until one is left. Each item takes part
in few joins, so the joined value is shallow, or cheap to compute.
-/
namespace CustomProps.Balanced

variable {α : Type}

/-- One round; `done` holds the joined pairs before the items, the last one first. -/
def joinPairs (join : α → α → α) (done : List α) : List α → List α
  | a :: b :: rest => joinPairs join (join a b :: done) rest
  | rest => done.reverse ++ rest

theorem length_joinPairs_le (join : α → α → α) (done items : List α) :
    (joinPairs join done items).length ≤ done.length + items.length := by
  fun_induction joinPairs join done items with
  | case1 done a b rest ih => simp only [List.length_cons] at ih ⊢; omega
  | case2 done rest => simp

/-- All items joined; `none` if there are none. -/
def join? (join : α → α → α) : List α → Option α
  | [] => none
  | [a] => some a
  | a :: b :: rest => join? join (joinPairs join [join a b] rest)
termination_by items => items.length
decreasing_by
  have := length_joinPairs_le join [join a b] rest
  simp only [List.length_cons, List.length_nil] at this ⊢
  omega

end CustomProps.Balanced
