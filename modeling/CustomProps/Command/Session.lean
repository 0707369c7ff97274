import CustomProps.Command.Program
import CustomProps.Files.Tree
/-!
The program run on a tree of files: a session keeps the tree, the lines printed and the events
logged.
-/
namespace CustomProps.Command

structure Session where
  files : FileTree
  lines : Array Line
  log : Array Log.Event

namespace Session

def start (files : FileTree) : Session := ⟨files, #[], #[]⟩

/-- Carries out a change of the tree, unless it is refused. -/
def change (f : FileTree → Except OsError FileTree) : StateM Session (Except OsError Unit) :=
  fun s =>
    match f s.files with
    | .ok files => (.ok (), { s with files := files })
    | .error e => (.error e, s)

instance : Host (StateM Session) where
  isDirectory p := fun s => (s.files.isDirectory p, s)
  read p := fun s => (s.files.read p, s)
  write p content := change fun t => t.write p content.toUTF8
  makeDirectory p := change fun t => t.makeDirectory p
  filesBelow p := fun s => (s.files.filesBelow p, s)
  print line := fun s => ((), { s with lines := s.lines.push line })
  log e := fun s => ((), { s with log := s.log.push e })

/-- The program run with its arguments on a tree of files. -/
def run (args : List String) (files : FileTree) : Outcome × Session :=
  (Command.run args : StateM Session Outcome).run (start files)

end Session
end CustomProps.Command
