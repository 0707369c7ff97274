/-!
The two forms in which results are shown: text for people, and JSON.
-/
namespace CustomProps

inductive Format where
  | text
  | json
deriving DecidableEq, Repr, Inhabited

namespace Format

def word : Format → String
  | text => "text"
  | json => "json"

def ofWord? : String → Option Format
  | "text" => some .text
  | "json" => some .json
  | _ => none

end Format
end CustomProps
