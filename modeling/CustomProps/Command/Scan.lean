import CustomProps.Command.Host
import CustomProps.Command.Invocation
import CustomProps.Report
/-!
Reporting what a stylesheet file declares and refers to, without changing anything.
-/
namespace CustomProps.Command

/-- What scanning the values of a stylesheet reports. -/
def scanEvents (s : Stylesheet) : List Log.Event :=
  s.declarations.flatMap fun d => (Value.scan d.value).events d.value

variable {m : Type → Type} [Monad m] [Host m]

/-- The whole command. -/
def scan (level : Log.Level) (a : ScanArguments) : Action m Unit := do
  let source ← readText (.unreadable a.input) (Path.ofText a.input)
  match Stylesheet.parse? source with
  | none => throw .notStylesheet
  | some sheet =>
    log level (scanEvents sheet)
    match a.format with
    | .json => print (.text (Json.array (sheet.report.map ReportEntry.toJson)).pretty)
    | .text =>
      print (.text s!"🔍 {a.input} ({sheet.declarationCount} declarations)")
      printAll (sheet.report.flatMap ReportEntry.summary)

end CustomProps.Command
