import CustomProps.Command.Arguments
import CustomProps.Command.Format
import CustomProps.Strategy
/-!
What the program can be asked to do, and how its arguments say it: switches of the program, then a
command with its own switches and one file.
-/
namespace CustomProps.Command

def programName : String := "cssvr"

def programVersion : String := "0.1.0"

def programDescription : String :=
  "CSS custom property renamer - rewrite --name declarations and var() references"

/-- The arguments of a renaming. -/
structure RenameArguments where
  input : String
  output : Option String
  map : Option String
  strategy : Option Strategy
  lead : Option String
  exceptNames : List String
  exceptPatterns : List String
  recursive : Bool
  showsStats : Bool
  format : Format
deriving DecidableEq, Repr, Inhabited

structure ScanArguments where
  input : String
  format : Format
deriving DecidableEq, Repr, Inhabited

inductive Request where
  | rename (a : RenameArguments)
  | scan (a : ScanArguments)
deriving DecidableEq, Repr, Inhabited

structure Invocation where
  config : Option String
  verbosity : Nat
  request : Option Request
deriving DecidableEq, Repr, Inhabited

/-! ### Grammars -/

def helpSwitch : Switch := ⟨"help", some 'h', .help⟩

def formatSwitch : Switch :=
  ⟨"format", some 'f', .value "format" ([Format.text, .json].map Format.word) false⟩

/-- A value that may be any text. -/
def anyValue (placeholder : String) : Switch.Kind := .value placeholder [] false

/-- The words that begin a command. -/
def commandWords : List String := ["rename", "scan", "help"]

def programGrammar : Grammar where
  switches :=
    [⟨"config", some 'c', anyValue "FILE"⟩, ⟨"verbose", some 'v', .counter⟩, helpSwitch,
      ⟨"version", some 'V', .version⟩]
  operands := .commands commandWords

def renameGrammar : Grammar where
  switches :=
    [⟨"output", some 'o', anyValue "PATH"⟩,
      ⟨"strategy", some 's', .value "strategy" ([Strategy.plain, .debug].map Strategy.word) false⟩,
      ⟨"prefix", none, anyValue "PREFIX"⟩, ⟨"except", none, .value "NAME" [] true⟩,
      ⟨"except-pattern", none, .value "REGEX" [] true⟩, ⟨"map", some 'm', anyValue "PATH"⟩,
      ⟨"recursive", some 'r', .flag⟩, ⟨"stats", none, .flag⟩, formatSwitch, helpSwitch]
  operands := .file

def scanGrammar : Grammar where
  switches := [formatSwitch, helpSwitch]
  operands := .file

/-! ### Reading -/

def Reading.format (r : Reading) : Format :=
  ((r.value? "format").bind Format.ofWord?).getD .text

/-- Reads all arguments of a command. -/
def readAll (g : Grammar) (args : List String) : Except Stop Reading := do
  (← Reading.start.run g args).1.settle

def readRename (args : List String) : Except Stop RenameArguments := do
  let r ← readAll renameGrammar args
  return {
    input := ← r.neededOperand
    output := r.value? "output"
    map := r.value? "map"
    strategy := (r.value? "strategy").bind Strategy.ofWord?
    lead := r.value? "prefix"
    exceptNames := r.values "except"
    exceptPatterns := r.values "except-pattern"
    recursive := r.isFound "recursive"
    showsStats := r.isFound "stats"
    format := r.format }

def readScan (args : List String) : Except Stop ScanArguments := do
  let r ← readAll scanGrammar args
  return ⟨← r.neededOperand, r.format⟩

/-- What the words after `help` ask for: help, if they name a command. -/
def readHelp : List String → Stop
  | [] => .help
  | word :: rest =>
    if commandWords.contains word then
      match rest with
      | [] => .help
      | next :: _ => .misuse (.unknownCommand next)
    else .misuse (.unknownCommand word)

/-- The arguments of the program. Those of a command are read before a value that is pending in
front of the command is looked at. -/
def Invocation.read (args : List String) : Except Stop Invocation := do
  let (r, rest) ← Reading.start.run programGrammar args
  let request ←
    match rest with
    | "rename" :: rest => (readRename rest).map fun a => some (.rename a)
    | "scan" :: rest => (readScan rest).map fun a => some (.scan a)
    | "help" :: rest => .error (readHelp rest)
    | _ => .ok none
  let r ← r.settle
  return ⟨r.value? "config", r.count "verbose", request⟩

end CustomProps.Command
