/-!
Half-open byte ranges of a text. A range cuts a piece out of a text only when both its ends are
character boundaries in order; `slice?` says `none` otherwise, so no cut ever splits a character.
-/
namespace CustomProps

/-- The bytes `start, …, stop - 1` of a text in UTF-8. -/
structure Span where
  start : Nat
  stop : Nat
deriving DecidableEq, Repr, Inhabited

namespace Span

/-- Both ends are character boundaries of `s`, in order. -/
def Within (r : Span) (s : String) : Prop :=
  r.start ≤ r.stop ∧ String.Pos.Raw.IsValid s ⟨r.start⟩ ∧ String.Pos.Raw.IsValid s ⟨r.stop⟩

instance (r : Span) (s : String) : Decidable (r.Within s) :=
  inferInstanceAs (Decidable (_ ∧ _ ∧ _))

/-- The piece of `s` that the range covers. -/
def slice? (r : Span) (s : String) : Option String :=
  if h : r.Within s then some (s.extract (s.pos ⟨r.start⟩ h.2.1) (s.pos ⟨r.stop⟩ h.2.2)) else none

/-- The piece of `s` that the range covers, empty if the range does not fit `s`. -/
def slice (r : Span) (s : String) : String := (r.slice? s).getD ""

theorem slice?_isSome_iff {r : Span} {s : String} : (r.slice? s).isSome ↔ r.Within s := by
  unfold slice?
  split <;> simp_all

theorem toByteArray_of_slice? {r : Span} {s t : String} (h : r.slice? s = some t) :
    t.toByteArray = s.toByteArray.extract r.start r.stop := by
  unfold slice? at h
  split at h
  · cases h
    simp
  · cases h

end Span
end CustomProps
