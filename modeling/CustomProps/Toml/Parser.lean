import CustomProps.Toml.Table
/-!
Reading TOML 1.0 documents. Arrays and inline tables nest up to a bound; a document is read line by
line. Every line, item and entry takes at least one character, so there are no more of them than the
text has characters.
-/
namespace CustomProps.Toml

mutual
/-- A value in a text of no more than `size` characters, with at most `depth` arrays and inline
tables around its innermost part. -/
def value (size depth : Nat) (cs : List Char) : Option (Node × List Char) :=
  match cs, depth with
  | '[' :: rest, depth + 1 => arrayItems size depth [] rest size
  | '[' :: _, 0 => none
  | '\x7b' :: rest, depth + 1 =>
    match skipBlanks rest with
    | '\x7d' :: rest => some (.inlineTable [], rest)
    | rest => inlineEntries size depth [] rest size
  | '\x7b' :: _, 0 => none
  | cs, _ => (scalar? cs).map fun (s, rest) => (.scalar s, rest)
termination_by (2 * depth, 0)

/-- The rest of an array after the items in `found`, last first, at most `left` of them; a comma may
follow the last. -/
def arrayItems (size depth : Nat) (found : List Node) (cs : List Char) (left : Nat) :
    Option (Node × List Char) :=
  match skipSpace false cs, left with
  | ']' :: rest, _ => some (.array found.reverse, rest)
  | _, 0 => none
  | cs, left + 1 =>
    match value size depth cs with
    | none => none
    | some (item, rest) =>
      match skipSpace false rest with
      | ',' :: rest => arrayItems size depth (item :: found) rest left
      | ']' :: rest => some (.array (item :: found).reverse, rest)
      | _ => none
termination_by (2 * depth + 1, left)

/-- The rest of an inline table from a key on, after the entries in `found`; at most `left` are to
come. -/
def inlineEntries (size depth : Nat) (found : Entries) (cs : List Char) (left : Nat) :
    Option (Node × List Char) :=
  match key? cs, left with
  | some (path, '=' :: rest), left + 1 =>
    match value size depth (skipBlanks rest) with
    | none => none
    | some (item, rest) =>
      match found.setKey item path with
      | none => none
      | some found =>
        match skipBlanks rest with
        | ',' :: rest => inlineEntries size depth found rest left
        | '\x7d' :: rest => some (.inlineTable found, rest)
        | _ => none
  | _, _ => none
termination_by (2 * depth + 1, left)
end

/-- The state between two lines: the whole document so far, and the header that keys belong to, if
there was one. -/
structure Document where
  entries : Entries
  header : List String

namespace Document

/-- The document after a key and its value. -/
def set (d : Document) (path : List String) (item : Node) : Option Document := do
  some { d with entries := ← d.entries.alongHeader (Entries.setKey item path) d.header }

/-- The document after a header. -/
def open? (d : Document) (path : List String) (change : String → Entries → Option Entries) :
    Option Document :=
  match path.getLast? with
  | none => none
  | some key => do
    some ⟨← d.entries.alongHeader (change key) path.dropLast, path⟩

/-- The document after the line that the text begins with, and the text from that line's end. The
text has no more than `size` characters. -/
def line (size : Nat) (d : Document) (cs : List Char) : Option (Document × List Char) :=
  match cs with
  | [] => some (d, [])
  | '#' :: _ | '\n' :: _ | '\r' :: _ => some (d, cs)
  | '[' :: '[' :: rest =>
    match key? rest with
    | some (path, ']' :: ']' :: rest) => (d.open? path Entries.append).map (·, rest)
    | _ => none
  | '[' :: rest =>
    match key? rest with
    | some (path, ']' :: rest) => (d.open? path Entries.define).map (·, rest)
    | _ => none
  | cs =>
    match key? cs with
    | some (path, '=' :: rest) => do
      let (item, rest) ← value size (nestingBound - 1) (skipBlanks rest)
      some (← d.set path item, rest)
    | _ => none

/-- The document after all lines of a text, at most `left` of them. Every line is followed by its
end or by the end of the text. -/
def lines (size : Nat) (d : Document) (cs : List Char) : (left : Nat) → Option Document
  | 0 => none
  | left + 1 =>
    match d.line size (skipBlanks cs) with
    | none => none
    | some (d, rest) =>
      match lineRest? rest with
      | none => none
      | some [] => some d
      | some rest => d.lines size rest left

end Document

/-- The entries of the document that a text writes, a byte order mark at its start apart. -/
def parse? (source : String) : Option Entries :=
  let cs :=
    match source.toList with
    | '\ufeff' :: rest => rest
    | cs => cs
  (Document.lines cs.length ⟨[], []⟩ cs (cs.length + 1)).map Document.entries

end CustomProps.Toml
