import DistinctCount.Estimate.Coefficients
import DistinctCount.Precision

/-! The estimate that needs nothing but the number of coupons. It inverts the
expected number of coupons by a polynomial, and by a power of two where the
number of coupons is far above the number of rows. -/
namespace DistinctCount.Icon

/-- The larger of an estimate and a count, and the count where the estimate is not
a number. -/
def atLeast (count estimate : Float) : Float :=
  if estimate.isNaN || estimate < count then count else estimate

/-- Evaluates a polynomial from the highest term down. -/
def evaluate (x : Float) (terms : List Float) : Float :=
  match terms.reverse with
  | [] => 0.0
  | highest :: lower => lower.foldl (fun total term => total * x + term) highest

/-- How many coupons a row can have before the polynomial is left. -/
def threshold (p : Precision) : Float := if p.lgK < 14 then 5.7 else 5.6

def estimate (p : Precision) (coupons : Nat) : Float :=
  if coupons = 0 then 0.0
  else if coupons = 1 then 1.0
  else
    let k := p.rowsFloat
    let c := Float.ofNat coupons
    if threshold p * k < c then 0.7940236163830469 * k * Float.pow 2.0 (c / k)
    else
      let factor := evaluate (c / (2.0 * k)) (coefficients.getD (p.lgK - 4) #[]).toList
      let ratio := c / k
      let term := 1.0 + ratio * ratio * ratio / 66.774757
      atLeast c (c * factor * term)

end DistinctCount.Icon
