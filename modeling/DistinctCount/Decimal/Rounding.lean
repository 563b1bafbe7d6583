import DistinctCount.Powers

/-! Exact decimal rounding of a ratio of two numbers to a given count of
significant digits, a half going to the even neighbour. -/
namespace DistinctCount.Decimal

/-- The quotient rounded to the nearest number, a half to the even one. -/
def divHalfEven (numerator denominator : Nat) : Nat :=
  let quotient := numerator / denominator
  let twice := 2 * (numerator % denominator)
  if twice < denominator then quotient
  else if denominator < twice then quotient + 1
  else quotient + quotient % 2

/-- How many decimal digits a number has; zero has one. -/
def digitCount (n : Nat) : Nat :=
  if n < 10 then 1 else digitCount (n / 10) + 1

/-- The exponent of the leading decimal digit of a positive ratio. -/
def leadingExponent (numerator denominator : Nat) : Int :=
  if denominator ≤ numerator then (digitCount (numerator / denominator) : Int) - 1
  else -(digitCount ((denominator - 1) / numerator) : Int)

/-- A number `coefficient · 10 ^ (exponent - places + 1)`, where the coefficient
has exactly `places` digits and `exponent` belongs to the leading one. -/
structure Scientific where
  coefficient : Nat
  exponent : Int
deriving DecidableEq, Repr

/-- Rounds to a multiple of `10 ^ scale`, counted in that unit. -/
def roundAt (numerator denominator : Nat) (scale : Int) : Nat :=
  if 0 ≤ scale then divHalfEven numerator (denominator * 10 ^ scale.toNat)
  else divHalfEven (numerator * 10 ^ (-scale).toNat) denominator

/-- Rounds a positive ratio to `places` significant digits. Rounding up past the
largest coefficient carries into the exponent. -/
def round (places numerator denominator : Nat) : Scientific :=
  let exponent := leadingExponent numerator denominator
  let coefficient := roundAt numerator denominator (exponent - places + 1)
  if coefficient = 10 ^ places then ⟨10 ^ (places - 1), exponent + 1⟩ else ⟨coefficient, exponent⟩

end DistinctCount.Decimal
