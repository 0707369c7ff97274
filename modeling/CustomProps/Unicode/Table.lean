import CustomProps.Unicode.CodeSet
/-!
Tables over code points, written as text: entries in lower-case hexadecimal, parted by blanks and
line ends. A code set lists single code points and ranges `first-last`; a run table lists where each
run begins and the upper-case-initial code of its value, a run lasting until the next one begins.
Both are in ascending order.
-/
namespace CustomProps.Unicode

/-- The value of a lower-case hexadecimal digit. -/
def hexValue (c : Char) : Nat :=
  if c.isDigit then c.toNat - '0'.toNat else c.toNat - 'a'.toNat + 10

def hexNumber (digits : List Char) : Nat := digits.foldl (fun n d => 16 * n + hexValue d) 0

/-- The entries of a table. -/
def entries (text : String) : List (List Char) :=
  (text.toList.splitOnP fun c => c == ' ' || c == '\n').filter fun e => !e.isEmpty

namespace CodeSet

/-- The bounds of an entry: where its range begins, and what follows the range. -/
def entryBounds (e : List Char) : List Nat :=
  match e.splitOn '-' with
  | [first, last] => [hexNumber first, hexNumber last + 1]
  | _ => [hexNumber e, hexNumber e + 1]

/-- The set that a text lists; no two of its ranges may touch. -/
def ofText (text : String) : CodeSet := ⟨((entries text).flatMap entryBounds).toArray⟩

end CodeSet

/-- Runs of code points of one value each, by ascending first code point. -/
structure RunTable (α : Type) where
  runs : Array (Nat × α)

namespace RunTable

variable {α : Type}

/-- The table whose values are written in a code that `decode` reads. -/
def ofText (decode : String → α) (text : String) : RunTable α :=
  ⟨((entries text).map fun e =>
    let isCode (c : Char) : Bool := !c.isUpper
    (hexNumber (e.takeWhile isCode), decode (String.ofList (e.dropWhile isCode)))).toArray⟩

/-- The value of the run that a code point lies in, if it is not before the first run. -/
def get? (t : RunTable α) (c : Nat) : Option α :=
  (t.runs[search (fun i => t.runs[i]?.any fun r => r.1 ≤ c) 0 t.runs.size - 1]?.filter fun r =>
    r.1 ≤ c).map Prod.snd

/-- Where `p` changes along the runs, `inside` telling whether it holds before them. The last run
ends with the last code point. -/
def boundsFrom (p : α → Bool) (inside : Bool) : List (Nat × α) → List Nat
  | [] => if inside then [0x110000] else []
  | (first, value) :: rest =>
    if p value == inside then boundsFrom p inside rest
    else first :: boundsFrom p (p value) rest

/-- The code points whose value satisfies `p`. -/
def codes (t : RunTable α) (p : α → Bool) : CodeSet :=
  ⟨(boundsFrom p false t.runs.toList).toArray⟩

end RunTable
end CustomProps.Unicode
