import CustomProps.Files.Error
import CustomProps.Options
/-!
Why a command fails. A failure is what went wrong; the message for it begins with the kind of
failure, and a failure of options has an exit code of its own, because then no file has been
touched.
-/
namespace CustomProps.Command

inductive Failure where
  /-- A file or directory cannot be written. -/
  | refused (e : OsError)
  | options (e : OptionsError)
  /-- A stylesheet file gives no text. -/
  | unreadable (path : String) (e : ReadError)
  /-- A configuration file gives no text. -/
  | configUnreadable (path : String) (e : ReadError)
  | notStylesheet
  | configNotJson
  | configNotToml
  /-- The name of a configuration file does not say what it is written in. -/
  | configKind
  /-- A directory is to be renamed without its files being asked for. -/
  | notRecursive (path : String)
  /-- No renaming map waits where a run should have delivered one. -/
  | mapUndelivered
deriving DecidableEq, Repr, Inhabited

namespace Failure

/-- What is wrong. -/
def claim : Failure → String
  | refused e => s!"IO Error: {e.message}"
  | options e => s!"Configuration error: {e.claim}"
  | unreadable path e => s!"Rename failed: File not found: {path}: {e.message}"
  | configUnreadable path e => s!"Rename failed: File not found: Config file {path}: {e.message}"
  | notStylesheet => "Rename failed: Invalid format: Invalid stylesheet JSON: "
  | configNotJson => "Rename failed: Invalid format: Invalid JSON config: "
  | configNotToml => "Rename failed: Invalid format: Invalid TOML config: "
  | configKind => "Rename failed: Invalid format: Config file must be .json or .toml format"
  | notRecursive path =>
    s!"Rename failed: Invalid format: {path} is a directory, use --recursive"
  | mapUndelivered => "Rename failed: Invalid format: Renaming map was not delivered"

/-- Why it is wrong, where there is more to say. -/
def detail? : Failure → Option String
  | options e => e.detail?
  | notStylesheet => some "the text is not a stylesheet"
  | configNotJson | configNotToml => some "the text is not a configuration"
  | _ => none

def message (f : Failure) : String := f.claim ++ f.detail?.getD ""

def exitCode : Failure → Nat
  | options _ => 2
  | _ => 1

end Failure
end CustomProps.Command
