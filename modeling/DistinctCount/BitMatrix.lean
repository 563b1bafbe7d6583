import DistinctCount.Pair

/-! The matrix that a counter stands for: one 64-bit word a row, in which bit `c`
tells whether the cell in column `c` is set. -/
namespace DistinctCount

namespace Row

/-- The word with only the given column set. -/
def single (column : Nat) : UInt64 := 1 <<< UInt64.ofNat column

/-- The word with exactly the columns before `column` set; `column` is at most 63. -/
def below (column : Nat) : UInt64 := single column - 1

def isSet (row : UInt64) (column : Nat) : Bool := (row >>> UInt64.ofNat column) &&& 1 != 0

/-- The set columns in ascending order. -/
def columns (row : UInt64) : List Nat :=
  if row = 0 then [] else (List.range 64).filter (isSet row)

/-- The first set column, or 64 where none is set. -/
def firstColumn (row : UInt64) : Nat := ((List.range 64).find? (isSet row)).getD 64

end Row

abbrev BitMatrix := Array UInt64

namespace BitMatrix

def zero (p : Precision) : BitMatrix := Array.replicate p.rows 0

/-- The number of set cells. -/
def count (m : BitMatrix) : Nat := m.foldl (fun total row => total + (Row.columns row).length) 0

/-- The set cells, row by row with ascending columns. -/
def pairs (m : BitMatrix) : List Pair :=
  m.toList.zipIdx.flatMap fun (row, index) => (Row.columns row).map (Pair.pack index)

/-- Sets cells of row `index`. -/
def orRow (m : BitMatrix) (index : Nat) (row : UInt64) : BitMatrix := m.modify index (· ||| row)

/-- Inverts one cell. -/
def flip (m : BitMatrix) (pair : Pair) : BitMatrix :=
  m.modify pair.row (· ^^^ Row.single pair.column)

/-- Sets the cells of `rows`, each row folded onto the rows of `m` by the remainder
of its index. -/
def orFolded (m : BitMatrix) (rows : Array UInt64) : BitMatrix :=
  rows.toList.zipIdx.foldl (fun m (row, index) => m.orRow (index % m.size) row) m

/-- Sets cells given as pairs, with their rows folded likewise. -/
def orPairs (m : BitMatrix) (pairs : List Pair) : BitMatrix :=
  pairs.foldl (fun m pair => m.orRow (pair.row % m.size) (Row.single pair.column)) m

end BitMatrix
end DistinctCount
