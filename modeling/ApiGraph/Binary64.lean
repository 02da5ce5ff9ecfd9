/-
# Binary floating-point numbers of 64 bits

A finite number of the format is `± mantissa · 2 ^ exponent` with a mantissa
below `2 ^ 53` and an exponent of at least `-1074`; the mantissa has all 53 bits
unless the exponent is the least one.  Arithmetic is exact on natural numbers,
followed by one rounding to the nearest number of the format, ties to the even
mantissa (`ofRatio?`).

`ofDecimal?` reads a decimal literal from its digits and its power of ten.  The
digits are rounded first and then multiplied or divided by a rounded power of
ten, so that the last bit can differ from that of the nearest number.
-/

namespace ApiGraph

/-- A finite number of the 64-bit format. -/
structure Binary64 where
  /-- The sign bit; zero has a sign as well. -/
  negative : Bool
  /-- The digits of the magnitude, below `2 ^ 53`. -/
  mantissa : Nat
  /-- The power of two that the mantissa counts. -/
  exponent : Int
  deriving DecidableEq, Repr, Inhabited

namespace Binary64

/-- The quotient rounded to the nearest integer, ties to the even one. -/
def roundDiv (n d : Nat) : Nat :=
  let q := n / d
  let r := n % d
  if 2 * r < d then q else if d < 2 * r then q + 1 else q + q % 2

/-- The fraction `n / d` divided by `2 ^ q`, as numerator and denominator. -/
def shifted (n d : Nat) (q : Int) : Nat × Nat :=
  if 0 ≤ q then (n, d * Nat.pow 2 q.toNat) else (n * Nat.pow 2 (-q).toNat, d)

/-- The exponent at which `n / d` has a mantissa of 53 bits, but at least `-1074`. -/
def exponentFor (n d : Nat) : Int :=
  let q := max ((n.log2 : Int) - d.log2 - 53) (-1074)
  let (a, b) := shifted n d q
  if a / b < Nat.pow 2 53 then q else q + 1

/-- The number of the format nearest to `n / d`; none where it is out of range. -/
def ofRatio? (negative : Bool) (n d : Nat) : Option Binary64 :=
  if n = 0 then some ⟨negative, 0, -1074⟩
  else
    let q := exponentFor n d
    let (a, b) := shifted n d q
    let m := roundDiv a b
    let (m, q) := if m = Nat.pow 2 53 then (Nat.pow 2 52, q + 1) else (m, q)
    if 971 < q then none else some ⟨negative, m, q⟩

/-- The magnitude as numerator and denominator. -/
def ratio (x : Binary64) : Nat × Nat :=
  if 0 ≤ x.exponent then (x.mantissa * Nat.pow 2 x.exponent.toNat, 1)
  else (x.mantissa, Nat.pow 2 (-x.exponent).toNat)

/-- Zero of either sign. -/
def isZero (x : Binary64) : Bool :=
  x.mantissa == 0

/-- The magnitude of `x` times that of `y`, under the sign of `x`. -/
def times? (x y : Binary64) : Option Binary64 :=
  ofRatio? x.negative (x.ratio.1 * y.ratio.1) (x.ratio.2 * y.ratio.2)

/-- The magnitude of `x` divided by that of `y`, under the sign of `x`. -/
def over? (x y : Binary64) : Option Binary64 :=
  ofRatio? x.negative (x.ratio.1 * y.ratio.2) (x.ratio.2 * y.ratio.1)

/-- The rounded power of ten; none above `10 ^ 308`. -/
def powerOfTen? (k : Nat) : Option Binary64 :=
  ofRatio? false (Nat.pow 10 k) 1

/-- Division by `10 ^ k` in steps of at most `10 ^ 308`, until nothing is left. -/
def scaleDown (x : Binary64) (k : Nat) : Option Binary64 := do
  if k ≤ 308 then over? x (← powerOfTen? k)
  else if x.isZero then some x
  else
    let y ← over? x (← powerOfTen? 308)
    scaleDown y (k - 308)
termination_by k

/-- The number `± digits · 10 ^ power`; none where it is out of range. -/
def ofDecimal? (negative : Bool) (digits : Nat) (power : Int) : Option Binary64 := do
  let x ← ofRatio? negative digits 1
  if power < 0 then scaleDown x (-power).toNat
  else if power ≤ 308 then times? x (← powerOfTen? power.toNat)
  else if x.isZero then some x
  else none

end Binary64
end ApiGraph
