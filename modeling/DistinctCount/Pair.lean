import DistinctCount.Hash.Stream
import DistinctCount.Precision

/-! A coupon is a cell of the bit matrix, packed into one word: the row above the
six bits of the column. -/
namespace DistinctCount

abbrev Pair := UInt32

namespace Pair

def row (pair : Pair) : Nat := pair.toNat / 64

def column (pair : Pair) : Nat := pair.toNat % 64

def pack (row column : Nat) : Pair := UInt32.ofNat (64 * row + column)

/-- The word that stands for no pair. -/
def vacant : Pair := 0xffffffff

/-- The cell of a hash: low bits of the first lane choose the row, and the number
of leading zeros of the second lane, at most 63, the column. The one cell that
would pack to the vacant word moves to the row before it. -/
def ofHash (p : Precision) (lanes : Hash.Lanes) : Pair :=
  let row := lanes.first.toNat % p.rows
  let column := 63 - Nat.log2 lanes.second.toNat
  let pair := pack row column
  if pair = vacant then pack (row - 1) column else pair

/-- The same column in the row that remains when only `p.rows` rows are kept. -/
def fold (p : Precision) (pair : Pair) : Pair := pack (pair.row % p.rows) pair.column

end Pair
end DistinctCount
