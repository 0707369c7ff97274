import CustomProps.Stats
import CustomProps.Value.Scan
/-!
What a run reports on the side. Each event has a level of detail and comes from a part of the
program; a log shows the events up to a level, one a line, a message's own line breaks indented.
-/
namespace CustomProps.Log

/-- Levels of detail, the coarsest first. -/
inductive Level where
  | warning
  | information
  | debugging
  | tracing
deriving DecidableEq, Repr, Inhabited

namespace Level

def rank : Level → Nat
  | .warning => 0
  | .information => 1
  | .debugging => 2
  | .tracing => 3

/-- The name of a level, in five columns. -/
def label : Level → String
  | .warning => "WARN "
  | .information => "INFO "
  | .debugging => "DEBUG"
  | .tracing => "TRACE"

/-- The level that is shown when more detail was asked for so many times. -/
def ofVerbosity : Nat → Level
  | 0 => .warning
  | 1 => .information
  | 2 => .debugging
  | _ => .tracing

end Level

inductive Event where
  /-- A value holds a `var(` that never closes. -/
  | unterminated (offset : Nat) (value : String)
  | referenceFound (name : String) (span : Span)
  | namelessCall (offset : Nat)
  | nameExcluded (name : String)
  | nameMapped (name renamed : String)
  | propertyRenamed (before after : String)
  | valueRewritten (before after : String)
  /-- A run begins under the described options. -/
  | runBegun (options : String)
  | runEnded (stats : Stats)
  | fileBegun (input output : String)
  | configurationLoaded (path : String)
  | directoryEmpty (path : String)
  | commandEnded
deriving DecidableEq, Repr, Inhabited

namespace Event

def level : Event → Level
  | unterminated .. | directoryEmpty .. => .warning
  | runEnded .. | fileBegun .. | configurationLoaded .. => .information
  | nameExcluded .. | propertyRenamed .. | valueRewritten .. | runBegun .. | commandEnded =>
    .debugging
  | referenceFound .. | namelessCall .. | nameMapped .. => .tracing

/-- The part of the program that reports the event. -/
def source : Event → String
  | unterminated .. | referenceFound .. | namelessCall .. => "cssvr::scanner"
  | nameExcluded .. => "cssvr::resolver"
  | nameMapped .. => "cssvr::output_map"
  | propertyRenamed .. | valueRewritten .. => "cssvr::walker"
  | runBegun .. | runEnded .. | fileBegun .. => "cssvr"
  | configurationLoaded .. => "cssvr::cli::config"
  | directoryEmpty .. | commandEnded => "cssvr::cli::handlers"

/-- What an event says; `elapsed` is the time that the command has taken, in words. -/
def message (elapsed : String) : Event → String
  | unterminated offset value =>
    s!"Unterminated var( at offset {offset} in '{value}', skipping the rest of the value"
  | referenceFound name span => s!"Found var(--{name}) at {span.start}..{span.stop}"
  | namelessCall offset => s!"var() at offset {offset} has no custom property name"
  | nameExcluded name => s!"Custom property '{name}' is excluded from renaming"
  | nameMapped name renamed => s!"New custom property '{name}' -> '{renamed}'"
  | propertyRenamed before after => s!"Renamed declaration {before} -> {after}"
  | valueRewritten before after => s!"Rewrote value '{before}' -> '{after}'"
  | runBegun options => s!"Rename options: {options}"
  | runEnded stats =>
    s!"Visited {stats.declarationsVisited} declarations: {stats.namesDiscovered} names, " ++
      s!"{stats.namesExcluded} excluded, {stats.propertiesRenamed} properties and " ++
      s!"{stats.valuesRewritten} values rewritten"
  | fileBegun input output => s!"Renaming '{input}' to '{output}'..."
  | configurationLoaded path => s!"Loaded configuration from {path}"
  | directoryEmpty path => s!"No stylesheet JSON files found under {path}"
  | commandEnded => s!"Total CLI time: {elapsed}"

/-- The event as a line of the log. -/
def line (elapsed : String) (e : Event) : String :=
  let text := (e.message elapsed).toList.flatMap fun c => if c == '\n' then "\n    ".toList else [c]
  s!"[{e.level.label} {e.source}] {String.ofList text}"

end Event

/-- The events of a log that are shown at a level. -/
def upTo (level : Level) (events : List Event) : List Event :=
  events.filter fun e => e.level.rank ≤ level.rank

end CustomProps.Log

namespace CustomProps.Value

/-- What finding a call reports. -/
def Call.event (c : Call) (value : String) : Log.Event :=
  match c.name with
  | some name => .referenceFound (name.slice value) c.span
  | none => .namelessCall c.span.start

/-- What the scan of a value reports. -/
def Scan.events (s : Scan) (value : String) : List Log.Event :=
  s.calls.map (·.event value) ++ (s.unterminatedAt.map (Log.Event.unterminated · value)).toList

end CustomProps.Value
