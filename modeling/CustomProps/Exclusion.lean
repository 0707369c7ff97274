import CustomProps.Pattern
import CustomProps.Text.Quoted
/-!
Names that are not renamed: single names, and all names that a pattern matches. Exclusions look at
the name as it was found, never at what it would be renamed to.
-/
namespace CustomProps

/-- An exclusion as it is given: a name, or the text of a pattern. -/
inductive ExclusionEntry where
  | name (name : String)
  | pattern (text : String)
deriving DecidableEq, Repr, Inhabited

/-- An exclusion that names can be tested against. -/
inductive Exclusion where
  | exact (name : String)
  | pattern (p : Pattern)

namespace Exclusion

/-- The exclusion excludes a name. -/
def excludes (e : Exclusion) (name : String) : Bool :=
  match e with
  | .exact only => only == name
  | .pattern p => p.isMatch name

/-- The exclusion as diagnostics show it. -/
def describe : Exclusion → String
  | .exact name => "Exact(" ++ Quoted.quote name ++ ")"
  | .pattern p => "Pattern(Regex(" ++ Quoted.quote p.text ++ "))"

end Exclusion
end CustomProps
