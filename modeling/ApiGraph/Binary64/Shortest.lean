/-
# The shortest decimal that reads back

The decimals that round to a number of the 64-bit format form an interval around
it, whose ends belong to it when the mantissa is even.  On the grid of decimals
with `n` digits the two neighbours of the number are the candidates; the first
`n` for which one of them lies in the interval gives the digits, and of two the
nearer is taken.
-/

import ApiGraph.Binary64

namespace ApiGraph
namespace Binary64

/-- A positive decimal `digits · 10 ^ power`. -/
structure Decimal where
  /-- The significant digits as a number. -/
  digits : Nat
  /-- The power of ten of the last digit. -/
  power : Int
  deriving DecidableEq, Repr

/-- How many decimal digits a number has; zero has one. -/
def digitCount (n : Nat) : Nat :=
  (Nat.toDigits 10 n).length

/-- The power of ten of the first digit of `n / d`. -/
def leadingPower (n d : Nat) : Int :=
  let guess : Int := (digitCount n : Int) - digitCount d
  let reached := if 0 ≤ guess then d * Nat.pow 10 guess.toNat ≤ n else d ≤ n * Nat.pow 10 (-guess).toNat
  if reached then guess else guess - 1

/-- Twice the distances from the magnitude to the ends of the interval of what
rounds to it, in units of half the last place: below and above.  Below a power
of two the numbers lie twice as dense. -/
def halfGaps (x : Binary64) : Nat × Nat :=
  if x.mantissa = Nat.pow 2 52 ∧ -1074 < x.exponent then (1, 2) else (2, 2)

/-- The magnitude and the ends of its interval over one denominator:
`(low, value, high, denominator)`. -/
def bounds (x : Binary64) : Nat × Nat × Nat × Nat :=
  let (below, above) := halfGaps x
  let m := 4 * x.mantissa
  if 0 ≤ x.exponent then
    let u := Nat.pow 2 x.exponent.toNat
    ((m - below) * u, m * u, (m + above) * u, 4)
  else (m - below, m, m + above, 4 * Nat.pow 2 (-x.exponent).toNat)

/-- The decimal `digits · 10 ^ power` lies in the interval of what rounds to `x`. -/
def readsBack (x : Binary64) (digits : Nat) (power : Int) : Bool :=
  let (low, _, high, d) := bounds x
  let (a, b) := if 0 ≤ power then (digits * Nat.pow 10 power.toNat, 1)
    else (digits, Nat.pow 10 (-power).toNat)
  if x.mantissa % 2 = 0 then low * b ≤ a * d && a * d ≤ high * b
  else low * b < a * d && a * d < high * b

/-- The candidate with the last digit at `power`, if one of the two reads back. -/
def candidate? (x : Binary64) (power : Int) : Option Decimal :=
  let (n, d) := x.ratio
  let (n, d) := if 0 ≤ power then (n, d * Nat.pow 10 power.toNat)
    else (n * Nat.pow 10 (-power).toNat, d)
  let down := n / d
  let nearer := if 2 * (n % d) < d ∨ (2 * (n % d) = d ∧ down % 2 = 0) then down else down + 1
  let other := if nearer = down then down + 1 else down
  if readsBack x nearer power then some ⟨nearer, power⟩
  else if readsBack x other power then some ⟨other, power⟩
  else none

/-- The decimal without zeros at its end. -/
def Decimal.trimmed (x : Decimal) : Decimal :=
  let zeros := ((Nat.toDigits 10 x.digits).reverse.takeWhile (· == '0')).length
  if x.digits = 0 then x else ⟨x.digits / Nat.pow 10 zeros, x.power + zeros⟩

/-- The shortest decimal that reads back as the magnitude of a number that is
not zero.  Seventeen digits always suffice. -/
def shortest (x : Binary64) : Decimal :=
  let leading := leadingPower x.ratio.1 x.ratio.2
  (((List.range 17).findSome? fun (places : Nat) =>
      candidate? x (leading - places)).getD
    ⟨x.mantissa, 0⟩).trimmed

end Binary64
end ApiGraph
