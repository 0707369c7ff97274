/-!
Which decimals fit into double precision. A decimal is `digits · 10 ^ exponent`; it fits if rounding
it to the nearest number of double precision gives a finite one. A quick reading of a decimal takes
two roundings instead of one, of its leading digits and of a power of ten, and multiplies the two;
it may come out differently at the very end of the range.
-/
namespace CustomProps.Decimal

/-- The number of decimal digits, one for zero. -/
def digitCount (n : Nat) : Nat := (Nat.toDigits 10 n).length

/-- The numbers below this bound round to a finite number of double precision. -/
def doubleBound : Nat := Nat.pow 2 1024 - Nat.pow 2 970

/-- The decimal rounds to a finite number of double precision. A decimal with more than 310 places
before the point is too large whatever its digits are, and one with fewer than 300 is not. -/
def isFinite (digits : Nat) (exponent : Int) : Bool :=
  digits == 0 ||
    let places := digitCount digits + exponent
    places < 300 ||
      (places ≤ 310 &&
        digits * Nat.pow 10 exponent.toNat < doubleBound * Nat.pow 10 (-exponent).toNat)

/-! ### Quick reading -/

/-- A whole number rounded to 53 binary digits; halfway between two, to the even one. -/
def nearestDouble (n : Nat) : Nat :=
  let unit := Nat.pow 2 (n.log2 - 52)
  let below := n / unit
  let rest := n % unit
  if unit < 2 * rest || (unit == 2 * rest && below % 2 == 1) then (below + 1) * unit
  else below * unit

/-- The numbers below this bound fit into a word. -/
def wordBound : Nat := 0x10000000000000000

/-- The leading digits of a whole number that a word holds, and how many digits are left out. -/
def leadingDigits (n : Nat) : Nat × Nat :=
  if n < wordBound then (n, 0)
  else
    let (leading, dropped) := leadingDigits (n / 10)
    (leading, dropped + 1)
termination_by n
decreasing_by
  unfold wordBound at *
  omega

/-- Appends digits to a number as long as a word holds it, and counts them. -/
def appendDigits (n count : Nat) : List Nat → Nat × Nat
  | [] => (n, count)
  | d :: rest =>
    if 10 * n + d < wordBound then appendDigits (10 * n + d) (count + 1) rest else (n, count)

/-- The largest exponent that is kept exactly. -/
def exponentBound : Int := 0x7fffffff

/-- The decimal with the given digits before and after its point, times a power of ten, is read
quickly as a finite number. -/
def isFiniteQuickly (whole : Nat) (fraction : List Nat) (exponent : Int) : Bool :=
  let (leading, dropped) := leadingDigits whole
  let (leading, appended) := appendDigits leading 0 fraction
  let shift : Int := dropped - appended + exponent
  leading == 0 ||
    (exponent ≤ exponentBound &&
      (shift ≤ 0 ||
        (shift ≤ 308 && nearestDouble leading * nearestDouble (Nat.pow 10 shift.toNat) < doubleBound)))

end CustomProps.Decimal
