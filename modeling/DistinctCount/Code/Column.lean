import DistinctCount.Code.ColumnRanks
import DistinctCount.Code.Tree

/-! How the column of a pair is coded: the code for column differences, and the
ranks that stand for columns while the window moves. -/
namespace DistinctCount

/-- Words for the differences 0 to 64. Small differences are a run of ones closed by
a zero; no word is longer than twelve bits. -/
def columnDeltaEntries : List Nat := [
  0x1000, 0x2001, 0x3003, 0x4007, 0x500f, 0x701f, 0x805f, 0x80df,
  0xa03f, 0xa23f, 0xb13f, 0xc53f, 0xcd3f, 0xc33f, 0xcb3f, 0xc73f,
  0xcf3f, 0xc0bf, 0xc8bf, 0xc4bf, 0xccbf, 0xc2bf, 0xcabf, 0xc6bf,
  0xcebf, 0xc1bf, 0xc9bf, 0xc5bf, 0xcdbf, 0xc3bf, 0xcbbf, 0xc7bf,
  0xcfbf, 0xc07f, 0xc87f, 0xc47f, 0xcc7f, 0xc27f, 0xca7f, 0xc67f,
  0xce7f, 0xc17f, 0xc97f, 0xc57f, 0xcd7f, 0xc37f, 0xcb7f, 0xc77f,
  0xcf7f, 0xc0ff, 0xc8ff, 0xc4ff, 0xccff, 0xc2ff, 0xcaff, 0xc6ff,
  0xceff, 0xc1ff, 0xc9ff, 0xc5ff, 0xcdff, 0xc3ff, 0xcbff, 0xc7ff,
  0xcfff]

def columnDeltaCode : PrefixCode := PrefixCode.ofEntries columnDeltaEntries

namespace ColumnOrder

/-- The rank of a column. The eight columns from `offset` on, counted round the end of
the row, have none. -/
def rank? (phase offset column : Nat) : Option Nat :=
  (ranks.getD phase [])[(column + 120 - offset) % 64]?

/-- The column of a rank. -/
def column? (phase offset rank : Nat) : Option Nat :=
  match (ranks.getD phase []).findIdx? (· == rank) with
  | some index => some ((index + offset + 8) % 64)
  | none => none

end ColumnOrder
end DistinctCount
