/-!
What can go wrong with files: the operating system refuses an operation, or a file's bytes are no
text.
-/
namespace CustomProps

/-- A refusal of the operating system: its number, and what that number means. A path that cannot be
put to the system at all is refused without a number. -/
structure OsError where
  code : Option Nat
  description : String
deriving DecidableEq, Repr, Inhabited

namespace OsError

def notFound : OsError := ⟨some 2, "No such file or directory"⟩
def alreadyExists : OsError := ⟨some 17, "File exists"⟩
def notDirectory : OsError := ⟨some 20, "Not a directory"⟩
def isDirectory : OsError := ⟨some 21, "Is a directory"⟩
def nameTooLong : OsError := ⟨some 36, "File name too long"⟩
def nameWithNul : OsError := ⟨none, "file name contained an unexpected NUL byte"⟩

def message (e : OsError) : String :=
  match e.code with
  | some code => s!"{e.description} (os error {code})"
  | none => e.description

end OsError

/-- Why a file gives no text. -/
inductive ReadError where
  | refused (e : OsError)
  | notText
deriving DecidableEq, Repr, Inhabited

def ReadError.message : ReadError → String
  | refused e => e.message
  | notText => "stream did not contain valid UTF-8"

/-- The text of a file that was read as bytes. -/
def ReadError.textOf : Except OsError ByteArray → Except ReadError String
  | .error e => .error (.refused e)
  | .ok bytes =>
    match String.fromUTF8? bytes with
    | some s => .ok s
    | none => .error .notText

end CustomProps
