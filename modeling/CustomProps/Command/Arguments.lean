import CustomProps.Text.Terminal
/-!
Reading command-line arguments. A command has switches, named by `--` and a word or by `-` and a
letter, and takes operands, which is all else. A switch that takes a value finds it behind `=`,
behind its letter, or in the next argument; after `--` every argument is an operand.

A value that stands in an argument of its own is looked at only when reading goes on to the next
switch or operand, or ends. So of two mistakes the earlier one is reported, except that an argument
that nothing answers to is reported before a value that waits to be looked at.
-/
namespace CustomProps.Command

/-- What a switch takes and what it is for. -/
inductive Switch.Kind where
  /-- A value, one of `choices` if there are any, shown in messages as `placeholder`; more than once
  only if it `repeats`. -/
  | value (placeholder : String) (choices : List String) (repeats : Bool)
  /-- Nothing; it is there or not. -/
  | flag
  /-- Nothing; it counts how often it is there. -/
  | counter
  /-- Ends reading with a request for help. -/
  | help
  /-- Ends reading with a request for the version. -/
  | version
deriving DecidableEq, Repr, Inhabited

structure Switch where
  word : String
  letter : Option Char
  kind : Switch.Kind
deriving DecidableEq, Repr, Inhabited

namespace Switch

def takesValue (s : Switch) : Bool :=
  match s.kind with
  | .value .. => true
  | _ => false

/-- The switch as messages show it. -/
def label (s : Switch) : String :=
  match s.kind with
  | .value placeholder _ _ => s!"--{s.word} <{placeholder}>"
  | .counter => s!"--{s.word}..."
  | _ => s!"--{s.word}"

end Switch

/-- What arguments can be wrong about. -/
inductive UsageError where
  | unknownCommand (argument : String)
  | unexpectedArgument (argument : String)
  | unexpectedValue (value : String) (s : Switch)
  | missingValue (s : Switch)
  | invalidValue (value : String) (s : Switch)
  | repeated (s : Switch)
  | missingOperand
deriving DecidableEq, Repr, Inhabited

/-- What is said about a mistake; arguments are shown without what is meant for a terminal. -/
def UsageError.message : UsageError → String
  | unknownCommand argument => s!"error: unrecognized subcommand '{Terminal.plain argument}'"
  | unexpectedArgument argument =>
    s!"error: unexpected argument '{Terminal.plain argument}' found"
  | unexpectedValue value s =>
    s!"error: unexpected value '{Terminal.plain value}' for '{s.label}' found; " ++
      "no more were expected"
  | missingValue s => s!"error: a value is required for '{s.label}' but none was supplied"
  | invalidValue value s => s!"error: invalid value '{Terminal.plain value}' for '{s.label}'"
  | repeated s => s!"error: the argument '{s.label}' cannot be used multiple times"
  | missingOperand => "error: the following required arguments were not provided:"

/-- Why reading ends before there is anything to run. -/
inductive Stop where
  | help
  | version
  | misuse (e : UsageError)
deriving DecidableEq, Repr, Inhabited

/-- What the operands of a command are: one of some words, which begins a command of its own and
takes all arguments after it, or one file. -/
inductive Operands where
  | commands (words : List String)
  | file
deriving DecidableEq, Repr, Inhabited

structure Grammar where
  switches : List Switch
  operands : Operands
deriving DecidableEq, Repr, Inhabited

/-- A switch whose value has not been looked at. -/
inductive Pending where
  | nothing
  /-- The next argument is the value, unless it is a switch. -/
  | awaiting (s : Switch)
  | holding (s : Switch) (value : String)
deriving DecidableEq, Repr, Inhabited

/-- What has been read of the arguments of a command. -/
structure Reading where
  /-- Switches by their words with their values, empty for those that take none. -/
  found : List (String × String)
  operand : Option String
  pending : Pending
  /-- All arguments to come are operands. -/
  operandsOnly : Bool
deriving DecidableEq, Repr, Inhabited

/-- An argument by its form. -/
inductive Argument where
  /-- The two dashes that end the switches. -/
  | endOfSwitches
  | word (name : String) (value : Option String)
  | letters (letters : List Char)
  | operand (text : String)
deriving DecidableEq, Repr, Inhabited

/-- A dash alone is an operand. -/
def Argument.ofText (text : String) : Argument :=
  match text.toList with
  | ['-', '-'] => .endOfSwitches
  | '-' :: '-' :: cs =>
    let name := String.ofList (cs.takeWhile (· != '='))
    match cs.dropWhile (· != '=') with
    | [] => .word name none
    | _ :: value => .word name (some (String.ofList value))
  | '-' :: c :: cs => .letters (c :: cs)
  | _ => .operand text

namespace Reading

def start : Reading := ⟨[], none, .nothing, false⟩

/-- The value of a switch that was found. -/
def value? (r : Reading) (word : String) : Option String := r.found.lookup word

/-- The values of a switch in the order in which they were found. -/
def values (r : Reading) (word : String) : List String :=
  (r.found.filter fun f => f.1 == word).map Prod.snd

/-- How often a switch was found. -/
def count (r : Reading) (word : String) : Nat := (r.values word).length

def isFound (r : Reading) (word : String) : Bool := 0 < r.count word

def misuse {α : Type} (e : UsageError) : Except Stop α := .error (.misuse e)

/-- Takes a switch with its value. -/
def accept (r : Reading) (s : Switch) (value : String) : Except Stop Reading :=
  let taken : Reading := { r with found := r.found ++ [(s.word, value)] }
  match s.kind with
  | .value _ choices repeats =>
    if !repeats && r.isFound s.word then misuse (.repeated s)
    else if choices.isEmpty || choices.contains value then .ok taken
    else misuse (if value.isEmpty then .missingValue s else .invalidValue value s)
  | .flag => if r.isFound s.word then misuse (.repeated s) else .ok taken
  | .counter => .ok taken
  | .help => .error .help
  | .version => .error .version

/-- Looks at the value that is pending. -/
def settle (r : Reading) : Except Stop Reading :=
  let settled : Reading := { r with pending := .nothing }
  match r.pending with
  | .nothing => .ok r
  | .awaiting s => misuse (.missingValue s)
  | .holding s value => settled.accept s value

/-- Takes a switch whose value, if it takes one, may stand in the same argument. -/
def switch (r : Reading) (s : Switch) (attached : Option String) : Except Stop Reading := do
  let r ← r.settle
  match attached with
  | some value => r.accept s value
  | none => if s.takesValue then .ok { r with pending := .awaiting s } else r.accept s ""

/-- Takes switches by their letters; the first that takes a value has the rest for it. -/
def letters (r : Reading) (switches : List Switch) : List Char → Except Stop Reading
  | [] => .ok r
  | c :: rest =>
    match switches.find? fun s => s.letter == some c with
    | none => misuse (.unexpectedArgument (String.ofList ['-', c]))
    | some s =>
      if s.takesValue then
        match rest with
        | [] => r.switch s none
        | '=' :: value => r.switch s (some (String.ofList value))
        | value => r.switch s (some (String.ofList value))
      else do (← r.switch s none).letters switches rest

/-- Takes a switch by its word. -/
def word (r : Reading) (switches : List Switch) (name : String) (value : Option String) :
    Except Stop Reading :=
  match switches.find? fun s => s.word == name with
  | none => misuse (.unexpectedArgument ("--" ++ name))
  | some s =>
    match value with
    | some v => if s.takesValue then r.switch s value else misuse (.unexpectedValue v s)
    | none => r.switch s none

/-- Takes an operand that begins no command. -/
def takeOperand (r : Reading) (operands : Operands) (text : String) : Except Stop Reading :=
  match operands with
  | .commands words =>
    misuse <|
      if r.operandsOnly && words.contains text then .unexpectedArgument text
      else .unknownCommand text
  | .file =>
    match r.operand with
    | some _ => misuse (.unexpectedArgument text)
    | none => do return { ← r.settle with operand := some text }

/-- The argument begins a command. -/
def beginsCommand (r : Reading) (operands : Operands) (text : String) : Bool :=
  match operands, r.pending with
  | _, .awaiting _ => false
  | .commands words, _ => !r.operandsOnly && words.contains text
  | .file, _ => false

/-- Takes one argument that begins no command. -/
def take (r : Reading) (g : Grammar) (text : String) : Except Stop Reading :=
  if r.operandsOnly then r.takeOperand g.operands text
  else
    match Argument.ofText text, r.pending with
    | .endOfSwitches, _ => .ok { r with operandsOnly := true }
    | .word name value, _ => r.word g.switches name value
    | .letters cs, _ => r.letters g.switches cs
    | .operand _, .awaiting s => .ok { r with pending := .holding s text }
    | .operand _, _ => r.takeOperand g.operands text

/-- Reads arguments up to the one that begins a command, which is given back with those after
it. A value may still be pending. -/
def run (r : Reading) (g : Grammar) : List String → Except Stop (Reading × List String)
  | [] => .ok (r, [])
  | text :: rest =>
    if r.beginsCommand g.operands text then .ok (r, text :: rest)
    else do (← r.take g text).run g rest

/-- The operand of a command that needs one. -/
def neededOperand (r : Reading) : Except Stop String :=
  match r.operand with
  | some text => .ok text
  | none => misuse .missingOperand

end Reading
end CustomProps.Command
