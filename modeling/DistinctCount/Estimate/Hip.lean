import DistinctCount.BitMatrix

/-! The historical estimate of a counter that has seen every item itself. Each new
coupon adds the inverse of the probability, before its arrival, that an item
brings a new coupon. -/
namespace DistinctCount

/-- `2 ^ -n` for `n` at most 1022, from the bits of the double. -/
def inversePower (n : Nat) : Float := Float.ofBits (UInt64.ofNat ((1023 - n) * 2 ^ 52))

structure Hip where
  /-- K times the probability that the next item brings a new coupon. -/
  kxp : Float
  /-- The estimate so far. -/
  accumulated : Float

namespace Hip

def start (p : Precision) : Hip := ⟨p.rowsFloat, 0.0⟩

/-- Charges a new coupon in `column`. -/
def charge (p : Precision) (hip : Hip) (column : Nat) : Hip :=
  ⟨hip.kxp - inversePower (column + 1), hip.accumulated + p.rowsFloat / hip.kxp⟩

/-- The probability mass of the clear cells among eight columns. -/
def byteMass (byte : UInt8) : Float :=
  (List.range 8).foldl
    (fun sum bit => if byte.toNat.testBit bit then sum else sum + inversePower (bit + 1)) 0.0

/-- The mass of columns `8 * index` to `8 * index + 7` over all rows, in units of the
first of these columns. -/
def columnMass (m : BitMatrix) (index : Nat) : Float :=
  m.foldl (fun sum row => sum + byteMass (row >>> UInt64.ofNat (8 * index)).toUInt8) 0.0

/-- The mass of all clear cells. Eight columns are summed at a time, and the small
sums of the high columns come first, which keeps the rounding error low. -/
def massOf (m : BitMatrix) : Float :=
  (List.range 8).reverse.foldl
    (fun total index => total + inversePower (8 * index) * columnMass m index) 0.0

/-- Replaces the running mass, which gathers rounding errors, by a fresh sum. -/
def refresh (hip : Hip) (m : BitMatrix) : Hip := { hip with kxp := massOf m }

end Hip
end DistinctCount
