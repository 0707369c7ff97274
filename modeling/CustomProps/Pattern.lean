import CustomProps.Pattern.Meaning
import CustomProps.Pattern.Parser
import CustomProps.Pattern.Size
/-!
Patterns that names are tested against. A pattern matches a name if it matches any part of it.
-/
namespace CustomProps

/-- A pattern: its text, and what the text means. -/
structure Pattern where
  text : String
  regex : Pattern.Regex

namespace Pattern

/-- The pattern that a text writes. -/
def compile (text : String) : Except Fault Pattern := do
  let tree ← Tree.parse text
  let (regex, _) ← tree.meaning Flags.initial
  if regex.isTooLarge then throw .tooLarge
  return ⟨text, regex⟩

/-- The pattern matches some part of `name`. -/
def isMatch (p : Pattern) (name : String) : Bool :=
  p.regex.matchesIn (name.toList.map Char.toNat)

end Pattern
end CustomProps
