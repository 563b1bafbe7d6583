import DistinctCount.Image.Pairs
import DistinctCount.Image.Preamble
import DistinctCount.Image.Window
import DistinctCount.Sketch.Basic

/-! The image of a counter: its head, the words of the window and the words of the
table. While few cells are set all of them are written as pairs, and the window is
not written. -/
namespace DistinctCount.Sketch

/-- The cells of a window at offset 0. -/
def windowPairs (s : Sketch) : List Pair := BitMatrix.pairs (s.window.map UInt8.toUInt64)

/-- The same row with another column. -/
def recolumn (pair : Pair) (column : Nat) : Pair := Pair.pack pair.row column

/-- Puts ranks in place of columns. A column without a rank is a fault; a window that
reaches past the last column, as the result of a merge may have, can leave such
pairs in the table. -/
def rankColumns (phase offset : Nat) : List Pair → Array Pair → Except Fault (List Pair)
  | [], ranked => .ok ranked.toList
  | pair :: rest, ranked =>
    match ColumnOrder.rank? phase offset pair.column with
    | none => .error .index
    | some rank => rankColumns phase offset rest (ranked.push (recolumn pair rank))

/-- The pairs of an image in the order of the table. A pinned window leaves columns
from 8 on, which are counted from 0; beside a moving one, columns are ranks. -/
def imagePairs (s : Sketch) : Except Fault (List Pair) :=
  match s.flavor with
  | .empty => .ok []
  | .sparse | .hybrid => .ok (s.table.items ++ s.windowPairs)
  | .pinned => .ok (s.table.items.map fun pair => recolumn pair (pair.column - 8))
  | .sliding =>
    rankColumns (windowPhase s.precision s.numCoupons) s.offset s.table.items #[]

def sortPairs (pairs : List Pair) : List Pair := pairs.mergeSort fun a b => a ≤ b

def imageWindow (s : Sketch) : Array UInt32 :=
  match s.flavor with
  | .pinned | .sliding => WindowStream.encode s.precision s.numCoupons s.window
  | .empty | .sparse | .hybrid => #[]

def wordsBytes (words : Array UInt32) : List UInt8 := words.toList.flatMap LittleEndian.word32

/-- The image of a counter whose pairs are written as these, in ascending order. -/
def imageOf (s : Sketch) (pairs : List Pair) : List UInt8 :=
  let window := s.imageWindow
  let table := PairStream.encode s.precision pairs
  let preamble : Preamble :=
    { precision := s.precision
      firstInteresting := UInt8.ofNat s.firstInteresting
      seedHash := Hash.seedHash s.seed
      coupons := UInt32.ofNat s.numCoupons
      tableEntries := UInt32.ofNat pairs.length
      tableWords := UInt32.ofNat table.size
      windowWords := UInt32.ofNat window.size
      merged := s.merged
      hipState := s.hipState }
  preamble.toBytes ++ wordsBytes window ++ wordsBytes table

def toImage (s : Sketch) : Except Fault (List UInt8) :=
  match s.imagePairs with
  | .error fault => .error fault
  | .ok pairs => .ok (s.imageOf (sortPairs pairs))

/-- The largest images measured for the precisions 4 to 19, without their heads. -/
def measuredSizes : Array Nat := #[
  24, 36, 56, 100, 180, 344, 660, 1292, 2540, 5020, 9968, 19836, 39532, 78880, 157516, 314656]

/-- An estimate of the largest image of a precision. Above the measured ones a row
takes 0.6 bytes. -/
def maxImageSize (p : Precision) : Nat :=
  match measuredSizes[p.lgK - 4]? with
  | some size => size + 40
  | none => (0.6 * p.rowsFloat).toUInt64.toNat + 40

end DistinctCount.Sketch
