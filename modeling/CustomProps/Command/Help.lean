import CustomProps.Command.Invocation
/-!
The help text: the switches of the program and of each of its commands.
-/
namespace CustomProps.Command

/-- A switch with its letter, if it has one. -/
def Switch.usage (s : Switch) : String :=
  match s.letter with
  | some c => s!"  -{c}, {s.label}"
  | none => s!"      {s.label}"

/-- A command line and the switches that may stand in it. -/
def Grammar.usage (g : Grammar) (words : String) : List String :=
  ["", s!"{programName} {words}"] ++ g.switches.map Switch.usage

def helpLines : List String :=
  [programDescription] ++ programGrammar.usage "[SWITCHES] [COMMAND]" ++
    renameGrammar.usage "rename [SWITCHES] <input>" ++
    scanGrammar.usage "scan [SWITCHES] <input>" ++
    ["", s!"{programName} help [COMMAND]"]

end CustomProps.Command
