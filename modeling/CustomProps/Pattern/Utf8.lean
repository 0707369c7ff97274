import CustomProps.Unicode.CodeSet
/-!
Characters as the bytes of UTF-8. A set of characters falls into few sequences of byte ranges: a
sequence holds the characters whose bytes lie one by one in its ranges.
-/
namespace CustomProps.Pattern.Utf8

open Unicode (CodeSet)

/-- The bytes of a character. -/
def encode (c : Nat) : List Nat :=
  if c < 0x80 then [c]
  else if c < 0x800 then [0xc0 + c / 0x40, 0x80 + c % 0x40]
  else if c < 0x10000 then [0xe0 + c / 0x1000, 0x80 + c / 0x40 % 0x40, 0x80 + c % 0x40]
  else
    [0xf0 + c / 0x40000, 0x80 + c / 0x1000 % 0x40, 0x80 + c / 0x40 % 0x40, 0x80 + c % 0x40]

/-- Byte values from the first to the second. -/
abbrev ByteRange := Nat × Nat

abbrev ByteSequence := List ByteRange

/-- The stretches of characters that are written in equally many bytes. Surrogates, which are no
characters, lie between two of them. -/
def stretches : List (Nat × Nat) :=
  [(0x00, 0x7f), (0x80, 0x7ff), (0x800, 0xd7ff), (0xe000, 0xffff), (0x10000, 0x10ffff)]

/-- Cuts the range from `first` to `last` at multiples of block sizes, each a multiple of the size
before it, so that the characters of each piece differ freely in their last bytes and are the same,
or differ in a range, before these. -/
def cut : (sizes : List Nat) → (first last : Nat) → List (Nat × Nat)
  | [], first, last => [(first, last)]
  | size :: sizes, first, last =>
    if first / size = last / size then cut sizes first last
    else
      let inner := (first + size - 1) / size * size
      let outer := (last + 1) / size * size
      (if first < inner then [(first, inner - 1)] else []) ++
        (if inner < outer then cut sizes inner (outer - 1) else []) ++
        (if outer ≤ last then [(outer, last)] else [])

/-- The byte sequences of the characters from `first` to `last`, in ascending order. -/
def ofRange (first last : Nat) : List ByteSequence :=
  stretches.flatMap fun (low, high) =>
    let first := max first low
    let last := min last high
    if last < first then []
    else if high < 0x80 then [[(first, last)]]
    else
      (cut [0x40, 0x1000, 0x40000] first last).map fun (a, b) => (encode a).zip (encode b)

/-- The byte sequences of a set of characters, in ascending order. -/
def sequences (s : CodeSet) : List ByteSequence :=
  s.ranges.flatMap fun (first, last) => ofRange first last

/-- Neighbouring sequences that begin with the same range, and what follows it in each. -/
def groups : List ByteSequence → List (ByteRange × List ByteSequence) :=
  List.foldr (fun
    | [], gathered => gathered
    | head :: tail, gathered =>
      match gathered with
      | (other, tails) :: more =>
        if head == other then (other, tail :: tails) :: more else (head, [tail]) :: gathered
      | [] => [(head, [tail])]) []

end CustomProps.Pattern.Utf8
