import CustomProps.Pattern.Tree
import CustomProps.Unicode.Latest
/-!
Reading the tree of a pattern from its text. Groups and classes that are open are kept on stacks, so
nesting costs no recursion; the depth of the finished tree is bounded by `depthLimit`. In verbose
mode blanks, and comments from `#` to the end of a line, stand between any two parts of a pattern.
-/
namespace CustomProps.Pattern

/-- How deep a pattern may nest. -/
def depthLimit : Nat := 250

/-- The largest count of a repetition. -/
def countLimit : Nat := 0x100000000

namespace Parser

def isBlank (c : Char) : Bool := Unicode.space.contains c.toNat

/-- The text from the next character that counts: any, or, in verbose mode, one outside blanks and
comments. -/
def skipFrom (verbose inComment : Bool) : List Char → List Char
  | [] => []
  | c :: rest =>
    if verbose && inComment then skipFrom verbose (c != '\n') rest
    else if verbose && isBlank c then skipFrom verbose false rest
    else if verbose && c == '#' then skipFrom verbose true rest
    else c :: rest

def skip (verbose : Bool) (cs : List Char) : List Char := skipFrom verbose false cs

/-- The characters that count, each with the text after it, up to the first one that is not to be
passed. -/
def visible (verbose : Bool) (passes : Char → Bool) (inComment : Bool) :
    List Char → List (Char × List Char)
  | [] => []
  | c :: rest =>
    if verbose && inComment then visible verbose passes (c != '\n') rest
    else if verbose && isBlank c then visible verbose passes false rest
    else if verbose && c == '#' then visible verbose passes true rest
    else if passes c then (c, rest) :: visible verbose passes false rest
    else [(c, rest)]

/-! ### Escapes -/

def hexValue? (c : Char) : Option Nat :=
  if c.isDigit then some (c.toNat - '0'.toNat)
  else if 'a' ≤ c && c ≤ 'f' then some (c.toNat - 'a'.toNat + 10)
  else if 'A' ≤ c && c ≤ 'F' then some (c.toNat - 'A'.toNat + 10)
  else none

/-- The character with a given code, if there is one. -/
def charOfCode (n : Nat) : Except Fault Char :=
  if n.isValidChar then .ok (Char.ofNat n) else .error .escapeHex

/-- A code in exactly `count` hexadecimal digits, read on after `n`. -/
def hexFixed (verbose : Bool) : (count n : Nat) → List Char → Except Fault (Nat × List Char)
  | 0, n, cs => .ok (n, cs)
  | _ + 1, _, [] => .error .escapeUnclosed
  | count + 1, n, c :: rest =>
    match hexValue? c with
    | some d => hexFixed verbose count (16 * n + d) (skip verbose rest)
    | none => .error .escapeHex

/-- A code in hexadecimal digits up to a closing brace; `n?` is `none` before the first digit. -/
def hexBraced (verbose : Bool) (n? : Option Nat) :
    List (Char × List Char) → Except Fault (Nat × List Char)
  | [] => .error .escapeUnclosed
  | ('\x7d', rest) :: _ =>
    match n? with
    | some n => .ok (n, skip verbose rest)
    | none => .error .escapeHex
  | (c, _) :: more =>
    match hexValue? c with
    | some d => hexBraced verbose (some (16 * n?.getD 0 + d)) more
    | none => .error .escapeHex

/-- The code after `\x`, `\u` or `\U`: in braces, or in `count` digits. -/
def hexEscape (verbose : Bool) (count : Nat) (cs : List Char) :
    Except Fault (Tree × List Char) := do
  match skip verbose cs with
  | '\x7b' :: rest =>
    let (n, rest) ← hexBraced verbose none (visible verbose (· != '\x7d') false rest)
    return (.literal ⟨← charOfCode n, false⟩, rest)
  | cs =>
    let (n, rest) ← hexFixed verbose count 0 cs
    return (.literal ⟨← charOfCode n, count == 2⟩, rest)

/-- The text up to a closing brace. -/
def braced (found : List Char) : List (Char × List Char) → Except Fault (List Char × List Char)
  | [] => .error .escapeUnclosed
  | ('\x7d', rest) :: _ => .ok (found.reverse, rest)
  | (c, _) :: more => braced (c :: found) more

/-- The parts of a text around the first place where `mark` stands. -/
def splitAtMark? (mark : List Char) : List Char → Option (List Char × List Char)
  | [] => none
  | c :: rest =>
    if mark.isPrefixOf (c :: rest) then some ([], (c :: rest).drop mark.length)
    else (splitAtMark? mark rest).map fun (before, after) => (c :: before, after)

/-- What a property escape asks for: `name!=value`, `name:value`, `name=value` or a name alone; the
flag says whether the text itself negates. -/
def propertyQuery (name : List Char) : Unicode.Query × Bool :=
  let valued (parts : List Char × List Char) : Unicode.Query :=
    .valued (String.ofList parts.1) (String.ofList parts.2)
  match splitAtMark? ['!', '='] name with
  | some parts => (valued parts, true)
  | none =>
    match splitAtMark? [':'] name with
    | some parts => (valued parts, false)
    | none =>
      match splitAtMark? ['='] name with
      | some parts => (valued parts, false)
      | none => (.named (String.ofList name), false)

/-- The property after `\p` or `\P`. -/
def propertyEscape (verbose negated : Bool) (cs : List Char) :
    Except Fault (Tree × List Char) := do
  match skip verbose cs with
  | [] => throw .escapeUnclosed
  | '\x7b' :: rest =>
    let (name, rest) ← braced [] (visible verbose (· != '\x7d') false rest)
    let (query, flip) := propertyQuery name
    return (.property query (negated != flip), rest)
  | c :: rest =>
    if c == '\\' then throw .propertyUnknown
    return (.property (.named (String.singleton c)) negated, skip verbose rest)

/-- The letters of a special word boundary up to its closing brace. -/
def boundaryName (found : List Char) : List (Char × List Char) → Except Fault (String × List Char)
  | [] => .error .boundaryUnknown
  | (c, rest) :: more =>
    if c.isAlpha || c == '-' then boundaryName (c :: found) more
    else if c == '\x7d' then .ok (String.ofList found.reverse, rest)
    else .error .boundaryUnknown

/-- What follows `\b`: one of four special boundaries in braces, or anything else, of which nothing
is taken. Braces whose first character is no letter or hyphen are a repetition. -/
def boundaryEscape (verbose : Bool) (cs : List Char) : Except Fault (Assertion × List Char) := do
  match cs with
  | '\x7b' :: rest =>
    match visible verbose (· != '\x7d') false rest with
    | [] => throw .boundaryUnknown
    | (c, after) :: more =>
      if c.isAlpha || c == '-' then
        let (name, rest) ← boundaryName [] ((c, after) :: more)
        match name with
        | "start" => return (.word .start, rest)
        | "end" => return (.word .finish, rest)
        | "start-half" => return (.word .startHalf, rest)
        | "end-half" => return (.word .finishHalf, rest)
        | _ => throw .boundaryUnknown
      else return (.word .boundary, cs)
  | _ => return (.word .boundary, cs)

/-- A character that stands for itself after a backslash: ASCII, neither letter nor digit, and
neither of the angles, which are word boundaries. -/
def isEscapable (c : Char) : Bool :=
  c.toNat < 0x80 && !c.isAlphanum && c != '<' && c != '>'

/-- What a backslash and the text after it denote. -/
def escape (verbose : Bool) : List Char → Except Fault (Tree × List Char)
  | [] => .error .escapeUnclosed
  | c :: rest =>
    let literal (c : Char) : Except Fault (Tree × List Char) := .ok (.literal ⟨c, false⟩, rest)
    match c with
    | 'x' => hexEscape verbose 2 rest
    | 'u' => hexEscape verbose 4 rest
    | 'U' => hexEscape verbose 8 rest
    | 'p' => propertyEscape verbose false rest
    | 'P' => propertyEscape verbose true rest
    | 'd' => .ok (.shorthand .digit false, rest)
    | 'D' => .ok (.shorthand .digit true, rest)
    | 's' => .ok (.shorthand .space false, rest)
    | 'S' => .ok (.shorthand .space true, rest)
    | 'w' => .ok (.shorthand .word false, rest)
    | 'W' => .ok (.shorthand .word true, rest)
    | 'a' => literal '\x07'
    | 'f' => literal '\x0c'
    | 't' => literal '\t'
    | 'n' => literal '\n'
    | 'r' => literal '\r'
    | 'v' => literal '\x0b'
    | 'A' => .ok (.assertion .textStart, rest)
    | 'z' => .ok (.assertion .textEnd, rest)
    | 'b' => (boundaryEscape verbose rest).map fun (a, rest) => (.assertion a, rest)
    | 'B' => .ok (.assertion (.word .noBoundary), rest)
    | '<' => .ok (.assertion (.word .start), rest)
    | '>' => .ok (.assertion (.word .finish), rest)
    | c =>
      if c.isDigit then .error .backReference
      else if isEscapable c then literal c
      else .error .escapeUnknown

/-! ### Classes -/

/-- A class around the one that is being read: its items so far, last first, the operator that
waits for its right side, and whether it is negated. -/
structure ClassLevel where
  items : List ClassTree
  pending : Option (SetOp × ClassTree)
  negated : Bool

namespace ClassLevel

/-- The class of everything read at this level so far. -/
def close (l : ClassLevel) : ClassTree :=
  let right := ClassTree.ofItems l.items.reverse
  match l.pending with
  | some (kind, left) => .op kind left right
  | none => right

def push (l : ClassLevel) (item : ClassTree) : ClassLevel := { l with items := item :: l.items }

/-- The level after an operator: what was read so far is its left side. -/
def operate (l : ClassLevel) (kind : SetOp) : ClassLevel :=
  { l with items := [], pending := some (kind, l.close) }

end ClassLevel

/-- Hyphens at the start of a class stand for themselves. -/
def leadingHyphens (level : ClassLevel) (current : List Char) :
    List (Char × List Char) → ClassLevel × List Char
  | ('-', rest) :: more => leadingHyphens (level.push (.literal ⟨'-', false⟩)) rest more
  | _ => (level, current)

/-- The start of a class after its bracket: a circumflex negates it; hyphens, or else one closing
bracket, stand for themselves. -/
def openClass (verbose : Bool) (cs : List Char) : Except Fault (ClassLevel × List Char) := do
  let cs := skip verbose cs
  let (negated, cs) : Bool × List Char :=
    match cs with
    | '^' :: rest => (true, skip verbose rest)
    | _ => (false, cs)
  let (level, cs) := leadingHyphens ⟨[], none, negated⟩ cs
    (visible verbose (· == '-') false cs)
  let cs := skip verbose cs
  let (level, cs) : ClassLevel × List Char :=
    match level.items, cs with
    | [], ']' :: rest => (level.push (.literal ⟨']', false⟩), skip verbose rest)
    | _, _ => (level, cs)
  if cs.isEmpty then throw .classUnclosed
  return (level, cs)

/-- A named class after its opening bracket: `:name:]` or `:^name:]`. -/
def posixClass? (cs : List Char) : Option (ClassTree × List Char) :=
  let named (negated : Bool) (cs : List Char) : Option (ClassTree × List Char) :=
    match cs.dropWhile (· != ':') with
    | ':' :: ']' :: rest =>
      (Posix.ofName? (String.ofList (cs.takeWhile (· != ':')))).map fun kind =>
        (.posix kind negated, rest)
    | _ => none
  match cs with
  | ':' :: '^' :: rest => named true rest
  | ':' :: rest => named false rest
  | _ => none

/-- One item of a class: an escape or a character. -/
def classItem (verbose : Bool) : List Char → Except Fault (Tree × List Char)
  | [] => .error .classUnclosed
  | '\\' :: rest => escape verbose rest
  | c :: rest => .ok (.literal ⟨c, false⟩, rest)

/-- The next character that counts after the one at hand. In verbose mode a comment counts from its
second character on; if nothing else is left, so do the blanks. -/
def peek? (verbose : Bool) (rest : List Char) : Option Char :=
  let afterBlanks := rest.dropWhile isBlank
  let found :=
    match afterBlanks with
    | '#' :: comment => comment.dropWhile isBlank
    | cs => cs
  if verbose && !found.isEmpty then found.head? else rest.head?

def literal? : Tree → Except Fault Literal
  | .literal l => .ok l
  | _ => .error .classRange

/-- A character, a range of characters, or an escape that stands for a class. -/
def classRange (verbose : Bool) (cs : List Char) : Except Fault (ClassTree × List Char) := do
  let (first, cs) ← classItem verbose cs
  let single : Except Fault ClassTree :=
    match first with
    | .literal l => .ok (.literal l)
    | .shorthand kind negated => .ok (.shorthand kind negated)
    | .property query negated => .ok (.property query negated)
    | _ => .error .classItem
  match skip verbose cs with
  | [] => throw .classUnclosed
  | '-' :: rest =>
    let next := peek? verbose rest
    if next == some ']' || next == some '-' then return (← single, '-' :: rest)
    let (last, rest) ← classItem verbose (skip verbose rest)
    let first ← literal? first
    let last ← literal? last
    if last.char < first.char then throw .classRange
    return (.range first last, rest)
  | cs => return (← single, cs)

/-- The rest of a class, with the classes around it. Every step takes at least one of the characters
left, of which there are no more than `bound`. -/
def classFrom (verbose : Bool) (outer : List ClassLevel) (level : ClassLevel) (cs : List Char) :
    (bound : Nat) → Except Fault (ClassTree × List Char)
  | 0 => .error .classUnclosed
  | bound + 1 =>
    match skip verbose cs with
    | [] => .error .classUnclosed
    | '[' :: rest =>
      match posixClass? rest with
      | some (item, rest) => classFrom verbose outer (level.push item) rest bound
      | none =>
        match openClass verbose rest with
        | .ok (inner, rest) => classFrom verbose (level :: outer) inner rest bound
        | .error e => .error e
    | ']' :: rest =>
      let item : ClassTree := .bracket level.negated level.close
      match outer with
      | [] => .ok (item, rest)
      | level :: outer => classFrom verbose outer (level.push item) rest bound
    | '&' :: '&' :: rest => classFrom verbose outer (level.operate .intersection) rest bound
    | '-' :: '-' :: rest => classFrom verbose outer (level.operate .difference) rest bound
    | '~' :: '~' :: rest => classFrom verbose outer (level.operate .symmetricDifference) rest bound
    | cs =>
      match classRange verbose cs with
      | .ok (item, rest) => classFrom verbose outer (level.push item) rest bound
      | .error e => .error e

/-! ### Repetitions -/

/-- Digits at the front of a text, and the text after them. -/
def digitRun (verbose : Bool) (found : List Char) (current : List Char) :
    List (Char × List Char) → List Char × List Char
  | (c, rest) :: more =>
    if c.isDigit then digitRun verbose (c :: found) (skip verbose rest) more
    else (found.reverse, current)
  | [] => (found.reverse, current)

/-- A count of a repetition, with blanks around it. -/
def count (verbose : Bool) (cs : List Char) : Except Fault (Nat × List Char) :=
  let cs := cs.dropWhile isBlank
  let (digits, rest) := digitRun verbose [] cs (visible verbose Char.isDigit false cs)
  let n := digits.foldl (fun n d => 10 * n + (d.toNat - '0'.toNat)) 0
  if digits.isEmpty || countLimit ≤ n then .error .repetitionCount
  else .ok (n, rest.dropWhile isBlank)

/-- The counts of a repetition after its opening brace: `n`, `n,` or `n,m`. -/
def counts (verbose : Bool) (cs : List Char) : Except Fault ((Nat × Option Nat) × List Char) := do
  let cs := skip verbose cs
  if cs.isEmpty then throw .repetitionUnclosed
  let (least, cs) ← count verbose cs
  let ((least, most), cs) ←
    match cs with
    | ',' :: rest =>
      match skip verbose rest with
      | '\x7d' :: rest => pure ((least, none), '\x7d' :: rest)
      | [] => throw .repetitionUnclosed
      | cs => do
        let (most, cs) ← count verbose cs
        pure ((least, some most), cs)
    | _ => pure ((least, some least), cs)
  match cs with
  | '\x7d' :: rest =>
    if most.any (· < least) then throw .repetitionRange
    return ((least, most), rest)
  | _ => throw .repetitionUnclosed

/-- A question mark after a repetition asks for the shortest match, which does not matter here. -/
def dropLazy : List Char → List Char
  | '?' :: rest => rest
  | cs => cs

/-! ### Groups -/

def Flag.ofChar? : Char → Option Flag
  | 'i' => some .ignoreCase
  | 'm' => some .multiLine
  | 's' => some .dotAll
  | 'U' => some .swapGreed
  | 'u' => some .unicode
  | 'R' => some .crlf
  | 'x' => some .verbose
  | _ => none

/-- Flags up to the colon or parenthesis that ends them; `dangling` if a hyphen came last. -/
def flags (change : FlagChange) (negating dangling : Bool) :
    List Char → Except Fault (FlagChange × List Char)
  | [] => .error .flagUnclosed
  | c :: rest =>
    if c == ':' || c == ')' then
      if dangling then .error .flagDangling else .ok (change, c :: rest)
    else if c == '-' then
      if negating then .error .flagDuplicate else flags change true true rest
    else
      match Flag.ofChar? c with
      | none => .error .flagUnknown
      | some f =>
        if (change.of? f).isSome then .error .flagDuplicate
        else
          let change : FlagChange :=
            if negating then { change with off := f :: change.off }
            else { change with on := f :: change.on }
          flags change negating false rest

def isNameChar (isFirst : Bool) (c : Char) : Bool :=
  c == '_' || Unicode.Latest.isAlphabetic c.toNat ||
    (!isFirst && (c == '.' || c == '[' || c == ']' || Unicode.Latest.isAlphanumeric c.toNat))

/-- The name of a group up to the angle that closes it. -/
def groupName (found : List Char) : List Char → Except Fault (String × List Char)
  | [] => .error .groupNameUnclosed
  | c :: rest =>
    if c == '>' then
      if found.isEmpty then .error .groupNameEmpty
      else .ok (String.ofList found.reverse, rest)
    else if isNameChar found.isEmpty c then groupName (c :: found) rest
    else .error .groupNameInvalid

/-- What an opening parenthesis begins. -/
inductive Opening where
  /-- Flags for the rest of the enclosing group. -/
  | flags (change : FlagChange)
  /-- A group with flags of its own, which may note where its match lies. -/
  | group (captures : Bool) (change : FlagChange)
  /-- A group with a name. -/
  | named (name : String)
deriving Repr, Inhabited

/-- What stands after an opening parenthesis. -/
def opening (verbose : Bool) (cs : List Char) : Except Fault (Opening × List Char) := do
  match skip verbose cs with
  | '?' :: '=' :: _ | '?' :: '!' :: _ | '?' :: '<' :: '=' :: _ | '?' :: '<' :: '!' :: _ =>
    throw .lookAround
  | '?' :: 'P' :: '<' :: rest | '?' :: '<' :: rest =>
    let (name, rest) ← groupName [] rest
    return (.named name, rest)
  | '?' :: [] => throw .groupUnclosed
  | '?' :: rest =>
    match ← flags ⟨[], []⟩ false false rest with
    | (change, ')' :: rest) =>
      if change.on.isEmpty && change.off.isEmpty then throw .repetitionMissing
      return (.flags change, rest)
    | (change, rest) => return (.group false change, rest.tail)
  | cs => return (.group true ⟨[], []⟩, cs)

/-! ### Patterns -/

/-- A group around the one that is being read: its finished alternatives and the items of the one
at hand, last first, the kind and flags of the inner group, and the mode outside it. -/
structure Enclosing where
  branches : List Tree
  items : List Tree
  captures : Bool
  change : FlagChange
  verbose : Bool

/-- What has been read: the alternatives and items of the innermost group, the groups around it, the
mode, and the names of all groups. -/
structure State where
  branches : List Tree
  items : List Tree
  outer : List Enclosing
  verbose : Bool
  names : List String

namespace State

/-- The tree of everything read in the innermost group. -/
def close (s : State) : Tree :=
  let last := Tree.ofItems s.items.reverse
  if s.branches.isEmpty then last else .alternation (last :: s.branches).reverse

def push (s : State) (item : Tree) : State := { s with items := item :: s.items }

/-- Repeats the last item. -/
def repetition (s : State) (least : Nat) (most : Option Nat) : Except Fault State :=
  match s.items with
  | [] | .flags _ :: _ => .error .repetitionMissing
  | item :: items => .ok { s with items := .repetition item least most :: items }

def enter (s : State) (captures : Bool) (change : FlagChange) : State :=
  { s with
    branches := []
    items := []
    outer := ⟨s.branches, s.items, captures, change, s.verbose⟩ :: s.outer
    verbose := (change.of? .verbose).getD s.verbose }

def leave (s : State) : Except Fault State :=
  match s.outer with
  | [] => .error .groupUnopened
  | e :: outer =>
    .ok { s with
      branches := e.branches
      items := .group e.captures e.change s.close :: e.items
      outer := outer
      verbose := e.verbose }

/-- The state after an opening parenthesis. -/
def opened (s : State) : Opening → Except Fault State
  | .flags change =>
    .ok { s.push (.flags change) with verbose := (change.of? .verbose).getD s.verbose }
  | .group captures change => .ok (s.enter captures change)
  | .named name =>
    if s.names.contains name then .error .groupNameDuplicate
    else .ok { s.enter true ⟨[], []⟩ with names := name :: s.names }

/-- The state after the first part of a text that begins with a character that counts, and the rest
of the text. The text has no more than `bound` characters. -/
def step (s : State) (bound : Nat) : List Char → Except Fault (State × List Char)
  | [] => .ok (s, [])
  | '(' :: rest => do
    let (o, rest) ← opening s.verbose rest
    return (← s.opened o, rest)
  | ')' :: rest => do return (← s.leave, rest)
  | '|' :: rest =>
    .ok ({ s with branches := Tree.ofItems s.items.reverse :: s.branches, items := [] }, rest)
  | '[' :: rest => do
    let (level, rest) ← openClass s.verbose rest
    let (cls, rest) ← classFrom s.verbose [] level rest bound
    match cls with
    | .bracket negated inner => return (s.push (.bracket negated inner), rest)
    | _ => throw .classUnclosed
  | '?' :: rest => do return (← s.repetition 0 (some 1), dropLazy rest)
  | '*' :: rest => do return (← s.repetition 0 none, dropLazy rest)
  | '+' :: rest => do return (← s.repetition 1 none, dropLazy rest)
  | '\x7b' :: rest => do
    if s.items.isEmpty then throw .repetitionMissing
    let ((least, most), rest) ← counts s.verbose rest
    return (← s.repetition least most, dropLazy (skip s.verbose rest))
  | '\\' :: rest => do
    let (item, rest) ← escape s.verbose rest
    return (s.push item, rest)
  | '.' :: rest => .ok (s.push .dot, rest)
  | '^' :: rest => .ok (s.push (.assertion .lineStart), rest)
  | '$' :: rest => .ok (s.push (.assertion .lineEnd), rest)
  | c :: rest => .ok (s.push (.literal ⟨c, false⟩), rest)

end State

/-- The tree of a pattern of which `s` has been read. Every step takes at least one of the
characters left, of which there are fewer than `bound`. -/
def parseFrom (s : State) (cs : List Char) : (bound : Nat) → Except Fault Tree
  | 0 => .error .groupUnclosed
  | bound + 1 =>
    match skip s.verbose cs with
    | [] => if s.outer.isEmpty then .ok s.close else .error .groupUnclosed
    | cs =>
      match s.step bound cs with
      | .ok (t, rest) => parseFrom t rest bound
      | .error e => .error e

end Parser

/-- The tree that a text writes. -/
def Tree.parse (text : String) : Except Fault Tree := do
  let cs := text.toList
  let tree ← Parser.parseFrom ⟨[], [], [], false, []⟩ cs (cs.length + 1)
  if depthLimit < tree.depth then throw .nesting
  return tree

end CustomProps.Pattern
