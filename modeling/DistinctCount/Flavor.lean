import DistinctCount.Precision

/-! The five layouts of a counter. The precision and the number of coupons decide
which one is used and how far the window has moved. -/
namespace DistinctCount

inductive Flavor where
  /-- No coupon. -/
  | empty
  /-- Fewer than 3K/32 coupons, all of them in the table. -/
  | sparse
  /-- Fewer than K/2 coupons; columns 0 to 7 are in the window, the others in the table. -/
  | hybrid
  /-- Fewer than 27K/8 coupons; laid out as before, and written with the window. -/
  | pinned
  /-- The window has left column 0; the table also holds the gaps before it. -/
  | sliding
deriving DecidableEq, Repr

namespace Flavor

def code : Flavor → Nat
  | .empty => 0
  | .sparse => 1
  | .hybrid => 2
  | .pinned => 3
  | .sliding => 4

def name : Flavor → String
  | .empty => "EMPTY"
  | .sparse => "SPARSE"
  | .hybrid => "HYBRID"
  | .pinned => "PINNED"
  | .sliding => "SLIDING"

/-- Whether the layout has a window. -/
def windowed : Flavor → Bool
  | .empty | .sparse => false
  | .hybrid | .pinned | .sliding => true

def ofCount (p : Precision) (coupons : Nat) : Flavor :=
  if coupons = 0 then .empty
  else if 32 * coupons < 3 * p.rows then .sparse
  else if 2 * coupons < p.rows then .hybrid
  else if 8 * coupons < 27 * p.rows then .pinned
  else .sliding

end Flavor

/-- The column at which the window stands for a number of coupons: it moves once
for every K coupons, for the first time at 27K/8. -/
def windowOffset (p : Precision) (coupons : Nat) : Nat := (8 * coupons - 19 * p.rows) / (8 * p.rows)

/-- The window is eight columns wide and ends at column 63 at the latest. -/
def lastWindowOffset : Nat := 56

end DistinctCount
