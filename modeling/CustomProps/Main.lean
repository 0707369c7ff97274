import CustomProps.Command.Help
import CustomProps.Command.Program
/-!
The program on a real machine: its files, its standard streams and its clock.
-/
namespace CustomProps

/-- A computation that knows when the program began, in milliseconds. -/
abbrev Machine := ReaderT Nat IO

namespace Machine

/-- The time since the program began, in words. -/
def elapsed : Machine String := do
  let now ← IO.monoMsNow
  let begun ← read
  return s!"{now - begun}ms"

/-- What the operating system said when it refused something. -/
def osError (e : IO.Error) : OsError :=
  match e with
  | .noFileOrDirectory .. => .notFound
  | .alreadyExists .. => .alreadyExists
  | .interrupted _ code details | .invalidArgument _ code details
  | .permissionDenied _ code details | .resourceExhausted _ code details
  | .inappropriateType _ code details | .noSuchThing _ code details | .otherError code details
  | .resourceBusy code details | .resourceVanished code details
  | .unsupportedOperation code details | .hardwareFault code details
  | .unsatisfiedConstraints code details | .illegalOperation code details
  | .protocolError code details | .timeExpired code details => ⟨some code.toNat, details⟩
  | .unexpectedEof => ⟨some 5, "Input/output error"⟩
  | .userError details => ⟨none, details⟩

/-- Does something, and says so if it is refused. -/
def attempt {α : Type} (act : IO α) : Machine (Except OsError α) := do
  match ← act.toBaseIO with
  | .ok a => return .ok a
  | .error e => return .error (osError e)

/-- The regular files among directory entries and below them; links are not followed. -/
partial def filesAmong (above : List String) (entries : Array IO.FS.DirEntry) :
    IO (List (List String)) := do
  let mut found := []
  for e in entries do
    match ← EIO.toBaseIO (do return (← e.path.symlinkMetadata).type) with
    | .ok .file => found := found ++ [above ++ [e.fileName]]
    | .ok .dir =>
      match ← e.path.readDir.toBaseIO with
      | .ok inner => found := found ++ (← filesAmong (above ++ [e.fileName]) inner)
      | .error _ => pure ()
    | _ => pure ()
  return found

/-- Does something with the file or directory that a path leads to. -/
def attemptAt {α : Type} (p : Path) (act : String → IO α) : Machine (Except OsError α) :=
  if p.text.contains '\x00' then return .error .nameWithNul else attempt (act p.text)

instance : Command.Host Machine where
  isDirectory p := do
    match ← attemptAt p fun path => do (← IO.FS.realPath path).isDir with
    | .ok b => return b
    | .error _ => return false
  read p := attemptAt p fun path => IO.FS.readBinFile path
  write p content := attemptAt p fun path => IO.FS.writeFile path content
  makeDirectory p := attemptAt p fun path => IO.FS.createDir path
  filesBelow p := do
    match ← attemptAt p fun path => do filesAmong [] (← (← IO.FS.realPath path).readDir) with
    | .ok files => return files
    | .error _ => return []
  print line := do IO.println (line.render (← elapsed))
  log e := do IO.eprintln (e.line (← elapsed))

/-- Shows what is left to be shown when the program has ended. -/
def conclude (outcome : Command.Outcome) : IO Unit :=
  match outcome with
  | .done => return ()
  | .help => Command.helpLines.forM IO.println
  | .version => IO.println s!"{Command.programName} {Command.programVersion}"
  | .misuse e => IO.eprintln e.message
  | .failed f => IO.eprintln f.message

/-- The program, from its arguments to its exit code. -/
def run (args : List String) : IO UInt32 := do
  let outcome ← ReaderT.run (Command.run args : Machine Command.Outcome) (← IO.monoMsNow)
  conclude outcome
  return outcome.exitCode.toUInt32

end Machine
end CustomProps

def main (args : List String) : IO UInt32 := CustomProps.Machine.run args
