import DistinctCount.Code.Tree
import DistinctCount.Code.WindowEntries
import DistinctCount.Precision

/-! The code for window bytes, chosen by the ratio of coupons to rows. -/
namespace DistinctCount

/-- The phase of a number of coupons. From 2.375 coupons a row on it is the count of
sixteenths of K, modulo 16; below that it is one of six ranges, and phase 6 just
before the window moves on. -/
def windowPhase (p : Precision) (coupons : Nat) : Nat :=
  if 1000 * coupons < 2375 * p.rows then
    if 4 * coupons < 3 * p.rows then 16
    else if 10 * coupons < 11 * p.rows then 17
    else if 100 * coupons < 132 * p.rows then 18
    else if 3 * coupons < 5 * p.rows then 19
    else if 1000 * coupons < 1965 * p.rows then 20
    else if 1000 * coupons < 2275 * p.rows then 21
    else 6
  else coupons / 2 ^ (p.lgK - 4) % 16

namespace WindowCode

def codes : Array PrefixCode := (entries.map PrefixCode.ofEntries).toArray

/-- The code for the window of a counter with this many coupons. -/
def ofCount (p : Precision) (coupons : Nat) : PrefixCode :=
  codes.getD (windowPhase p coupons) ⟨#[], .unused⟩

end WindowCode
end DistinctCount
