import CustomProps.Command.Host
import CustomProps.Command.Invocation
import CustomProps.Config
import CustomProps.Walk
/-!
Renaming stylesheet files. A single file is renamed into a file beside it or at a given path; all
stylesheet files below a directory are renamed one by one in the order of their names, each by a
run of its own, into files beside them or at the same places below another directory. The options
are built before any file is read, so that none is touched if they make no sense, and built anew for
every file. A run delivers its renaming map, which is taken when the stylesheet has been written.
-/
namespace CustomProps.Command

/-- What the name of a result beside its stylesheet ends in. -/
def renamedEnding : String := "renamed.json"

/-- What the name of a renaming map ends in. -/
def mapEnding : String := "map.json"

/-- The configuration in force: what the arguments say goes over what the file says, except that
exclusions of both count. -/
def RenameArguments.config (a : RenameArguments) (file : Config) : Config where
  strategy := (a.strategy.map Strategy.word).or file.strategy
  except :=
    file.except ++ a.exceptNames.map (fun name => .name (PropertyName.stripMarkers name)) ++
      a.exceptPatterns.map .pattern
  lead := a.lead.or file.lead

/-- The file holds a stylesheet, and not a result of this program. -/
def isStylesheetName (name : String) : Bool :=
  name.endsWith ".json" && !name.endsWith ("." ++ renamedEnding) &&
    !name.endsWith ("." ++ mapEnding)

/-- The order of paths: name by name, a directory before what is in it. -/
def namesLE (a b : List String) : Bool := !decide (b < a)

/-- The stylesheet files among those below a directory, in order. -/
def stylesheetsAmong (files : List (List String)) : List (List String) :=
  (files.filter fun names => names.getLast?.any isStylesheetName).mergeSort namesLE

/-- The renaming maps that runs have delivered and nobody has taken, the oldest first. -/
structure Inbox where
  waiting : List RenamingMap

namespace Inbox

def empty : Inbox := ⟨[]⟩

def deliver (b : Inbox) (map : RenamingMap) : Inbox := ⟨b.waiting ++ [map]⟩

/-- The map that is taken next, if any waits. -/
def next? (b : Inbox) : Option RenamingMap := b.waiting.head?

@[simp]
theorem next?_deliver_empty (map : RenamingMap) : (empty.deliver map).next? = some map := rfl

end Inbox

variable {m : Type → Type} [Monad m] [Host m]

/-- The options that the arguments make over a configuration. -/
def buildOptions (file : Config) (a : RenameArguments) : Action m Options :=
  match (a.config file).options with
  | .error e => throw (.options e)
  | .ok o => return o

/-- Renames a stylesheet file into another by one run, and says what the run counted. The map of the
run is delivered before the stylesheet is written. -/
def renameStylesheet (level : Log.Level) (o : Options) (inbox : Inbox) (input output : Path) :
    Action m (Stats × Inbox) := do
  log level [.fileBegun input.text output.text]
  let source ← readText (.unreadable input.text) input
  match Stylesheet.parse? source with
  | none => throw .notStylesheet
  | some sheet =>
    let run := o.run sheet.rules
    log level run.log
    let inbox := inbox.deliver run.map
    write output (Stylesheet.print ⟨run.rules⟩)
    return (run.stats, inbox)

/-- Renames one file. -/
def renameFile (level : Log.Level) (file : Config) (a : RenameArguments) (input output : Path)
    (map : Option Path) : Action m Stats := do
  print (.text s!"🔨 Renaming {input.text} -> {output.text}")
  let o ← buildOptions file a
  let (stats, inbox) ← renameStylesheet level o .empty input output
  match inbox.next? with
  | none => throw .mapUndelivered
  | some delivered =>
    print (.text s!"   Custom properties: {delivered.size} ({stats.namesExcluded} excluded)")
    match map with
    | none => pure ()
    | some map =>
      makeParent map
      write map delivered.print
      print (.text s!"   Map: {map.text}")
    return stats

/-- Renames a file below `input`; results and maps go below the directories given for them. -/
def renameBelow (level : Log.Level) (file : Config) (a : RenameArguments) (input : Path)
    (output map : Option Path) (names : List String) : Action m Stats := do
  let stylesheet := input.join names
  let target ←
    match output with
    | none => pure (stylesheet.sibling renamedEnding)
    | some directory => do
      let target := directory.join names
      makeParent target
      pure target
  renameFile level file a stylesheet target (map.map fun d => (d.join names).sibling mapEnding)

/-- Renames all stylesheet files below a directory. -/
def renameDirectory (level : Log.Level) (file : Config) (a : RenameArguments) (input : Path)
    (output map : Option Path) : Action m Stats := do
  let files := stylesheetsAmong (← ExceptT.lift (Host.filesBelow input))
  if files.isEmpty then log level [.directoryEmpty input.text]
  files.foldlM (fun total names => do
    return total + (← renameBelow level file a input output map names)) Stats.zero

/-- The whole command. -/
def rename (level : Log.Level) (file : ConfigFile) (a : RenameArguments) : Action m Unit := do
  let output := (a.output.or file.outputDirectory).map Path.ofText
  let map := (a.map.or file.mapFile).map Path.ofText
  -- These options are not used: they only have to make sense before any file is touched.
  let _ ← buildOptions file.config a
  let input := Path.ofText a.input
  let stats ←
    if ← ExceptT.lift (Host.isDirectory input) then
      if a.recursive then renameDirectory level file.config a input output map
      else throw (.notRecursive a.input)
    else renameFile level file.config a input (output.getD (input.sibling renamedEnding)) map
  print (.text "✅ Rename successful!")
  print .elapsed
  if a.showsStats then
    match a.format with
    | .json => print (.text stats.toJson.pretty)
    | .text => printAll stats.summary
  log level [.commandEnded]

end CustomProps.Command
