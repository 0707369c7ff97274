import CustomProps.Command.Failure
import CustomProps.Files.Path
import CustomProps.Log
/-!
What commands need of the machine they run on: its files, and somewhere to print lines and log
events. Commands are written for any machine; each operation of a machine says whether it was
refused, and a command turns a refusal into its own failure.
-/
namespace CustomProps.Command

/-- A line of the results. -/
inductive Line where
  | text (s : String)
  /-- The time that the command has taken. -/
  | elapsed
deriving DecidableEq, Repr, Inhabited

/-- A line as it is printed; `elapsed` is the time taken, in words. -/
def Line.render (elapsed : String) : Line → String
  | text s => s
  | .elapsed => s!"   Time: {elapsed}"

class Host (m : Type → Type) where
  isDirectory : Path → m Bool
  read : Path → m (Except OsError ByteArray)
  write : Path → String → m (Except OsError Unit)
  /-- Makes one directory. -/
  makeDirectory : Path → m (Except OsError Unit)
  /-- The files below a directory, in any order: the names that lead to each from there. -/
  filesBelow : Path → m (List (List String))
  print : Line → m Unit
  log : Log.Event → m Unit

/-- Something that a command does, which ends early if it fails. -/
abbrev Action (m : Type → Type) := ExceptT Failure m

variable {m : Type → Type} [Monad m]

/-- Does what may be refused, and fails with what a refusal means here. -/
def attempt {ε α : Type} (failure : ε → Failure) (act : m (Except ε α)) : Action m α :=
  ExceptT.mk do return (← act).mapError failure

variable [Host m]

def print (line : Line) : Action m Unit := ExceptT.lift (Host.print line)

def printAll (lines : List String) : Action m Unit := lines.forM fun s => print (.text s)

/-- Logs the events that are shown at a level. -/
def log (level : Log.Level) (events : List Log.Event) : Action m Unit :=
  (Log.upTo level events).forM fun e => ExceptT.lift (Host.log e)

/-- The text of a file; `failure` says what it means that there is none. -/
def readText (failure : ReadError → Failure) (p : Path) : Action m String :=
  attempt failure do return ReadError.textOf (← Host.read p)

def write (p : Path) (content : String) : Action m Unit := attempt .refused (Host.write p content)

/-- Makes a directory that may be there already. -/
def makeOrFind (p : Path) : m (Except OsError Unit) := do
  match ← Host.makeDirectory p with
  | .ok () => return .ok ()
  | .error e => if ← Host.isDirectory p then return .ok () else return .error e

/-- Makes a directory and, as far as they are missing, those it is in. -/
def makeDirectories (p : Path) : m (Except OsError Unit) := do
  if p.isEmpty then return .ok ()
  match ← Host.makeDirectory p with
  | .ok () => return .ok ()
  | .error e =>
    if e ≠ .notFound then
      if ← Host.isDirectory p then return .ok () else return .error e
    else
      match h : p.parent? with
      | none => return .error e
      | some parent =>
        have := Path.size_parent?_lt h
        match ← makeDirectories parent with
        | .error e => return .error e
        | .ok () => makeOrFind p
termination_by p.size

/-- Makes the directory that a path is to be written in. -/
def makeParent (p : Path) : Action m Unit :=
  match p.parent? with
  | some parent => attempt .refused (makeDirectories parent)
  | none => return ()

end CustomProps.Command
