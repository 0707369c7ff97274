/-!
What becomes of a name that is renamed. The plain strategy leaves names as they are, so that they
change only if they get a text in front; the debug strategy marks every name with a trailing
underscore.
-/
namespace CustomProps

inductive Strategy where
  | plain
  | debug
deriving DecidableEq, Repr, Inhabited

namespace Strategy

/-- What the debug strategy appends. -/
def debugSuffix : String := "_"

def apply (s : Strategy) (name : String) : String :=
  match s with
  | .plain => name
  | .debug => name ++ debugSuffix

/-- The word for the strategy in options and on the command line. -/
def word : Strategy → String
  | .plain => "none"
  | .debug => "debug"

def ofWord? : String → Option Strategy
  | "none" => some .plain
  | "debug" => some .debug
  | _ => none

end Strategy
end CustomProps
