import CustomProps.Command.Rename
import CustomProps.Command.Scan
/-!
The whole program: it reads its arguments, loads the configuration file if one is named, and carries
out the command. How it ended says what is left to be shown and with which exit code.
-/
namespace CustomProps.Command

/-- How the program ended. -/
inductive Outcome where
  | done
  | help
  | version
  | misuse (e : UsageError)
  | failed (f : Failure)
deriving DecidableEq, Repr, Inhabited

namespace Outcome

def ofStop : Stop → Outcome
  | .help => .help
  | .version => .version
  | .misuse e => .misuse e

def ofExcept : Except Failure Unit → Outcome
  | .ok () => .done
  | .error f => .failed f

def exitCode : Outcome → Nat
  | .misuse _ => 2
  | .failed f => f.exitCode
  | _ => 0

end Outcome

variable {m : Type → Type} [Monad m] [Host m]

/-- The configuration in a file, by what its name ends in. -/
def loadConfig (level : Log.Level) (path : String) : Action m ConfigFile := do
  let source ← readText (.configUnreadable path) (Path.ofText path)
  let (file?, failure) ←
    if path.endsWith ".json" then pure (ConfigFile.ofJsonText? source, Failure.configNotJson)
    else if path.endsWith ".toml" then pure (ConfigFile.ofTomlText? source, .configNotToml)
    else throw .configKind
  match file? with
  | none => throw failure
  | some file =>
    log level [.configurationLoaded path]
    return file

/-- Carries out what was asked for. -/
def perform (i : Invocation) : Action m Unit := do
  let level := Log.Level.ofVerbosity i.verbosity
  let file ←
    match i.config with
    | some path => loadConfig level path
    | none => pure ConfigFile.empty
  match i.request with
  | some (.rename a) => rename level file a
  | some (.scan a) => scan level a
  | none => print (.text "No subcommand specified. Use --help for usage information.")

/-- The program run with its arguments. -/
def run (args : List String) : m Outcome :=
  match Invocation.read args with
  | .error stop => return .ofStop stop
  | .ok i => do return .ofExcept (← (perform i).run)

end CustomProps.Command
