import CustomProps.Text.Span
/-!
Edits of a text at byte ranges. Edits are carried out from the highest start down, each on the text
that the ones before it left, so an edit never moves a range that is still to come.
-/
namespace CustomProps

/-- Puts `text` in the place of the bytes of `span`. -/
structure Edit where
  span : Span
  text : String
deriving DecidableEq, Repr, Inhabited

namespace Edit

/-- One edit; `none` if its range does not fit the text. -/
def splice? (e : Edit) (s : String) : Option String :=
  if e.span.Within s then
    some (Span.slice ⟨0, e.span.start⟩ s ++ e.text ++ Span.slice ⟨e.span.stop, s.utf8ByteSize⟩ s)
  else
    none

/-- The order in which edits are carried out: by falling start, equal starts as they were given. -/
def schedule (edits : List Edit) : List Edit :=
  edits.mergeSort fun a b => decide (b.span.start ≤ a.span.start)

/-- All edits one after the other; `none` as soon as one does not fit. -/
def applyAll? (edits : List Edit) (s : String) : Option String :=
  (schedule edits).foldlM (fun t e => e.splice? t) s

theorem schedule_perm (edits : List Edit) : (schedule edits).Perm edits :=
  List.mergeSort_perm ..

end Edit
end CustomProps
