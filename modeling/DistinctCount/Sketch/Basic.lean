import DistinctCount.Estimate.Hip
import DistinctCount.Flavor
import DistinctCount.PairTable

/-! The state of a counter. Where no window is allocated the table holds every
coupon. Otherwise the window holds eight columns from its offset on, one byte a
row; cells before the window count as set and cells after it as clear, and the
table holds the cells for which this is wrong. -/
namespace DistinctCount

structure Sketch where
  precision : Precision
  seed : UInt64
  /-- Every cell in a column before this one is set. -/
  firstInteresting : Nat
  numCoupons : Nat
  table : PairTable
  offset : Nat
  /-- One byte a row, or empty where no window is allocated. -/
  window : Array UInt8
  /-- Whether the counter is the result of a merge, which keeps no history. -/
  merged : Bool
  hipState : Hip

namespace Sketch

def new (p : Precision) (seed : UInt64) : Sketch where
  precision := p
  seed := seed
  firstInteresting := 0
  numCoupons := 0
  table := PairTable.empty p
  offset := 0
  window := #[]
  merged := false
  hipState := Hip.start p

/-- Gives up the historical estimate, which a merge cannot keep. -/
def dropHistory (s : Sketch) : Sketch :=
  { s with merged := true, hipState := Hip.start s.precision }

/-- An empty counter that is the result of a merge of nothing. -/
def newMerged (p : Precision) (seed : UInt64) : Sketch := (new p seed).dropHistory

def isEmpty (s : Sketch) : Bool := s.numCoupons == 0

def flavor (s : Sketch) : Flavor := Flavor.ofCount s.precision s.numCoupons

/-- The matrix that the window stands for, before the table corrects it. -/
def windowMatrix (s : Sketch) : BitMatrix :=
  let filled := Row.below s.offset
  if s.window.isEmpty then Array.replicate s.precision.rows filled
  else s.window.map fun byte => filled ||| byte.toUInt64 <<< UInt64.ofNat s.offset

/-- The cells that the counter has collected. -/
def bitMatrix (s : Sketch) : BitMatrix := s.table.items.foldl BitMatrix.flip s.windowMatrix

/-- The same matrix, which a pair outside it makes a fault. -/
def bitMatrix? (s : Sketch) : Except Fault BitMatrix :=
  if s.table.items.all fun pair => pair.row < s.precision.rows then .ok s.bitMatrix
  else .error .index

/-- Whether the parts of the state agree with the number of coupons. -/
def isConsistent (s : Sketch) : Bool :=
  s.offset ≤ lastWindowOffset && s.flavor.windowed != s.window.isEmpty &&
    s.bitMatrix.count % 2 ^ 32 == s.numCoupons

/-- The number of coupons, counted without expanding the matrix. -/
def tally (s : Sketch) : Nat :=
  if s.window.isEmpty then s.table.numItems
  else
    let inWindow := s.window.foldl (fun total byte => total + (Row.columns byte.toUInt64).length) 0
    let missing := s.table.items.countP fun pair => pair.column < s.offset
    inWindow + (s.precision.rows * s.offset - missing) + (s.table.numItems - missing)

end Sketch
end DistinctCount
