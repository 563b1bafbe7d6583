import DistinctCount.Decimal.Significant
import DistinctCount.Estimate.Bounds
import DistinctCount.Image.Preamble
import DistinctCount.Sketch.Basic

/-! What a counter tells: its estimate, the bounds and a summary of its state. The
head of an image tells the same estimate and bounds without the rest. -/
namespace DistinctCount

namespace Sketch

def estimate (s : Sketch) : Float :=
  Estimate.value s.precision s.numCoupons s.merged s.hipState.accumulated

def lowerBound (s : Sketch) (kappa : Deviations) : Float :=
  Estimate.lower s.precision s.numCoupons s.merged s.hipState.accumulated kappa

def upperBound (s : Sketch) (kappa : Deviations) : Float :=
  Estimate.upper s.precision s.numCoupons s.merged s.hipState.accumulated kappa

/-- Doubles of a summary have six significant digits. -/
def summaryPlaces : Nat := 6

def summary (s : Sketch) : String :=
  let seedHash := String.ofList (Nat.toDigits 16 (Hash.seedHash s.seed).toNat)
  let history :=
    if s.merged then ""
    else
      "   HIP estimate   : " ++ Decimal.significant summaryPlaces s.hipState.accumulated ++ "\n" ++
        "   kxp            : " ++ Decimal.significant summaryPlaces s.hipState.kxp ++ "\n"
  let window :=
    if s.window.isEmpty then "   window         : not allocated\n"
    else s!"   window         : allocated\n   window offset  : {s.offset}\n"
  "### CPC sketch summary:\n" ++
    s!"   lg_k           : {s.precision.lgK}\n" ++
    s!"   seed hash      : {seedHash}\n" ++
    s!"   C              : {s.numCoupons}\n" ++
    s!"   flavor         : {s.flavor.code}\n" ++
    "   merged         : " ++ ImageError.truth s.merged ++ "\n" ++
    history ++
    s!"   interesting col: {s.firstInteresting}\n" ++
    s!"   table entries  : {s.table.numItems}\n" ++
    window ++
    "### End sketch summary\n"

end Sketch

namespace Preamble

/-- The head of an image. The data and the seed are not looked at. -/
def ofImage (bytes : List UInt8) : Except Error Preamble :=
  match read bytes with
  | .error e => .error (.image e)
  | .ok (preamble, _) => .ok preamble

def isEmpty (p : Preamble) : Bool := p.coupons == 0

def estimate (p : Preamble) : Float :=
  Estimate.value p.precision p.coupons.toNat p.merged p.hipState.accumulated

def lowerBound (p : Preamble) (kappa : Deviations) : Float :=
  Estimate.lower p.precision p.coupons.toNat p.merged p.hipState.accumulated kappa

def upperBound (p : Preamble) (kappa : Deviations) : Float :=
  Estimate.upper p.precision p.coupons.toNat p.merged p.hipState.accumulated kappa

end Preamble
end DistinctCount
