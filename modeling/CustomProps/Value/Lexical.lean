import CustomProps.Text.Ascii
/-!
Finding the marks that delimit a `var()` call in the bytes of a value. Every search runs over the
bytes from an index up to `stop`, and takes a quoted string as one step: parentheses, commas and
`var(` inside a string are plain text. A backslash inside a string also takes the byte after it;
a string that does not close runs to `stop`. All accesses are in bounds by construction.

The lemmas say where an answer can lie; they are what makes the scan of a value end.
-/
namespace CustomProps.Value

/-- What a call begins with, in lower case. -/
def opening : String := "var("

/-- The four bytes at `i` read `var(` in any mixture of cases. -/
def readsVar (b : ByteArray) (i : Nat) (h : i + 4 ≤ b.size) : Bool :=
  Ascii.toLower b[i] == 0x76 && Ascii.toLower b[i + 1] == 0x61 && Ascii.toLower b[i + 2] == 0x72 &&
    b[i + 3] == Ascii.openParen

/-- No identifier ends right before `i`, so that a word may begin there. -/
def beginsWord (b : ByteArray) (i : Nat) (h : i ≤ b.size) : Bool :=
  if hi : 0 < i then !Ascii.isIdent b[i - 1] else true

/-- Index after the last byte before `i` that is not a space, never below `low`. -/
def trimEnd (b : ByteArray) (low : Nat) : (i : Nat) → i ≤ b.size → Nat
  | 0, _ => 0
  | i + 1, h => if low ≤ i ∧ Ascii.isSpace b[i] then trimEnd b low i (by omega) else i + 1

theorem trimEnd_le {b : ByteArray} {low i : Nat} (h : i ≤ b.size) : trimEnd b low i h ≤ i := by
  induction i with
  | zero => simp [trimEnd]
  | succ i ih =>
    have := ih (by omega)
    unfold trimEnd
    split <;> omega

/-! ### Searches below a bound -/

variable (b : ByteArray) {stop : Nat} (hs : stop ≤ b.size)

/-- Index of the first byte at or after `i` that is not a space. -/
def trimStart (i : Nat) : Nat :=
  if h : i < stop then
    if Ascii.isSpace b[i] then trimStart (i + 1) else i
  else i
termination_by stop - i

/-- Index after the closing `quote` of a string whose inside is searched from `i` on. -/
def stringEnd (quote : UInt8) (i : Nat) : Nat :=
  if h : i < stop then
    if b[i] = Ascii.backslash then stringEnd quote (i + 2)
    else if b[i] = quote then i + 1
    else stringEnd quote (i + 1)
  else stop
termination_by stop - i

theorem min_le_stringEnd (quote : UInt8) (i : Nat) : min i stop ≤ stringEnd b hs quote i := by
  fun_induction stringEnd b hs quote i <;> omega

theorem stringEnd_le (quote : UInt8) (i : Nat) : stringEnd b hs quote i ≤ stop := by
  fun_induction stringEnd b hs quote i <;> omega

/-- Index after the string that opens at `i`. -/
def skipString (i : Nat) (h : i < stop) : Nat := stringEnd b hs b[i] (i + 1)

theorem lt_skipString (i : Nat) (h : i < stop) : i < skipString b hs i h := by
  have := min_le_stringEnd b hs b[i] (i + 1)
  unfold skipString
  omega

theorem skipString_le (i : Nat) (h : i < stop) : skipString b hs i h ≤ stop :=
  stringEnd_le ..

/-- The first `var(` at or after `i`, outside strings, that does not continue an identifier. -/
def findOpen? (i : Nat) : Option Nat :=
  if h : i + 4 ≤ stop then
    if Ascii.isQuote b[i] then findOpen? (skipString b hs i (by omega))
    else if readsVar b i (by omega) && beginsWord b i (by omega) then some i
    else findOpen? (i + 1)
  else none
termination_by stop - i
decreasing_by
  · have := lt_skipString b hs i (by omega)
    omega
  · omega

/-- The parenthesis that closes the outermost of `depth + 1` open ones. -/
def findClose? (depth : Nat) (i : Nat) : Option Nat :=
  if h : i < stop then
    if Ascii.isQuote b[i] then findClose? depth (skipString b hs i h)
    else if b[i] = Ascii.openParen then findClose? (depth + 1) (i + 1)
    else if b[i] = Ascii.closeParen then
      match depth with
      | 0 => some i
      | depth + 1 => findClose? depth (i + 1)
    else findClose? depth (i + 1)
  else none
termination_by stop - i
decreasing_by
  · have := lt_skipString b hs i h
    omega
  all_goals omega

/-- The first comma outside all parentheses, `depth` of which are open before `i`. -/
def findComma? (depth : Nat) (i : Nat) : Option Nat :=
  if h : i < stop then
    if Ascii.isQuote b[i] then findComma? depth (skipString b hs i h)
    else if b[i] = Ascii.openParen then findComma? (depth + 1) (i + 1)
    else if b[i] = Ascii.closeParen then findComma? (depth - 1) (i + 1)
    else if b[i] = Ascii.comma ∧ depth = 0 then some i
    else findComma? depth (i + 1)
  else none
termination_by stop - i
decreasing_by
  · have := lt_skipString b hs i h
    omega
  all_goals omega

/-! ### Where the answers lie -/

variable {b hs}

theorem findOpen?_bounds {i s : Nat} (h : findOpen? b hs i = some s) : i ≤ s ∧ s + 4 ≤ stop := by
  fun_induction findOpen? b hs i with
  | case1 i hi _ ih =>
    have := lt_skipString b hs i (by omega)
    have := ih h
    omega
  | case2 i hi => cases h; omega
  | case3 i hi _ _ ih => have := ih h; omega
  | case4 => cases h

theorem findClose?_bounds {depth i k : Nat} (h : findClose? b hs depth i = some k) :
    i ≤ k ∧ k < stop := by
  fun_induction findClose? b hs depth i with
  | case1 _ i hi _ ih =>
    have := lt_skipString b hs i hi
    have := ih h
    omega
  | case3 => cases h; omega
  | case6 => cases h
  | _ => have := ‹_ → _› h; omega

theorem findComma?_bounds {depth i c : Nat} (h : findComma? b hs depth i = some c) :
    i ≤ c ∧ c < stop := by
  fun_induction findComma? b hs depth i with
  | case1 _ i hi _ ih =>
    have := lt_skipString b hs i hi
    have := ih h
    omega
  | case4 => cases h; omega
  | case6 => cases h
  | _ => have := ‹_ → _› h; omega

end CustomProps.Value
