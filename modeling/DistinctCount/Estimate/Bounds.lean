import DistinctCount.Error
import DistinctCount.Estimate.Icon

/-! The estimate of a counter and its confidence bounds. The width of the interval
comes from measured errors for small precisions and from their limit for large
ones. -/
namespace DistinctCount

/-- The number of standard deviations between an estimate and its bounds. -/
inductive Deviations where
  | one
  | two
  | three
deriving DecidableEq, Repr

namespace Deviations

def toNat : Deviations → Nat
  | .one => 1
  | .two => 2
  | .three => 3

def ofNumber : Nat → Except Error Deviations
  | 1 => .ok .one
  | 2 => .ok .two
  | 3 => .ok .three
  | value => .error (.deviations value)

end Deviations

namespace Estimate

/-- Relative errors times the square root of the number of rows: measured ones in
units of 1/10000 for the precisions 4 to 14 and one to three deviations, and the
limit for larger precisions. -/
structure ErrorScale where
  measured : Array Nat
  limit : Float

def iconLow : ErrorScale where
  measured := #[
    6037, 5720, 5328, 6411, 6262, 5682, 6724, 6403, 6127, 6665, 6411, 6208,
    6959, 6525, 6427, 6892, 6665, 6619, 6792, 6752, 6690, 6899, 6818, 6708,
    6871, 6845, 6812, 6909, 6861, 6828, 6919, 6897, 6842]
  limit := 0.693147180559945309417232121458

def iconHigh : ErrorScale where
  measured := #[
    8031, 8559, 9309, 7084, 7959, 8660, 7141, 7514, 7876, 7458, 7430, 7572,
    6892, 7141, 7497, 6889, 7132, 7290, 7075, 7118, 7185, 7040, 7047, 7085,
    6993, 7019, 7053, 6953, 7001, 6983, 6944, 6966, 7004]
  limit := 0.693147180559945309417232121458

def hipLow : ErrorScale where
  measured := #[
    5871, 5247, 4826, 5877, 5403, 5070, 5873, 5533, 5304, 5878, 5632, 5464,
    5874, 5690, 5564, 5880, 5745, 5619, 5875, 5784, 5701, 5866, 5789, 5742,
    5869, 5827, 5784, 5876, 5860, 5827, 5881, 5853, 5842]
  limit := 0.588705011257737332

def hipHigh : ErrorScale where
  measured := #[
    5855, 6688, 7391, 5886, 6444, 6923, 5885, 6254, 6594, 5889, 6134, 6326,
    5900, 6072, 6203, 5875, 6005, 6089, 5871, 5980, 6040, 5889, 5941, 6015,
    5871, 5926, 5973, 5866, 5901, 5915, 5880, 5914, 5953]
  limit := 0.588705011257737332

/-- The relative standard error at a precision. -/
def ErrorScale.relative (scale : ErrorScale) (p : Precision) (kappa : Deviations) : Float :=
  let x :=
    if p.lgK ≤ 14 then
      Float.ofNat (scale.measured.getD (3 * (p.lgK - 4) + (kappa.toNat - 1)) 0) / 10000.0
    else scale.limit
  x / p.rowsFloat.sqrt

/-- The historical estimate, which a merged counter does not have. -/
def value (p : Precision) (coupons : Nat) (merged : Bool) (accumulated : Float) : Float :=
  if merged then Icon.estimate p coupons else accumulated

/-- No counter has fewer items than coupons. -/
def lower (p : Precision) (coupons : Nat) (merged : Bool) (accumulated : Float)
    (kappa : Deviations) : Float :=
  if coupons = 0 then 0.0
  else
    let scale := if merged then iconHigh else hipHigh
    let margin := Float.ofNat kappa.toNat * scale.relative p kappa
    Icon.atLeast (Float.ofNat coupons) (value p coupons merged accumulated / (1.0 + margin))

/-- Rounded up, which widens the interval a little. -/
def upper (p : Precision) (coupons : Nat) (merged : Bool) (accumulated : Float)
    (kappa : Deviations) : Float :=
  if coupons = 0 then 0.0
  else
    let scale := if merged then iconLow else hipLow
    let margin := Float.ofNat kappa.toNat * scale.relative p kappa
    (value p coupons merged accumulated / (1.0 - margin)).ceil

end Estimate
end DistinctCount
