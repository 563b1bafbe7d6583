import DistinctCount.Sketch.Basic

/-! Collecting coupons. A coupon that the counter has already leaves it as it is.
A new one is charged to the estimate and may change the layout: at 3K/32 coupons
the window is set up, and from 27K/8 on it moves by one column every K coupons. -/
namespace DistinctCount.Sketch

/-- Changes the table; the answer of the change is passed on. -/
@[inline] def withTable : Sketch → (PairTable → Except Fault (PairTable × Bool)) →
    Except Fault (Sketch × Bool)
  | ⟨precision, seed, firstInteresting, numCoupons, table, offset, window, merged, hipState⟩, change =>
    match change table with
    | .error fault => .error fault
    | .ok (table, novel) =>
      .ok (⟨precision, seed, firstInteresting, numCoupons, table, offset, window, merged, hipState⟩, novel)

/-- Sets a bit of a window byte; the answer says whether it was clear. -/
def setWindowBit (window : Array UInt8) (row bit : Nat) : Except Fault (Array UInt8 × Bool) :=
  if h : row < window.size then
    let byte := window[row]
    let changed := byte ||| 1 <<< UInt8.ofNat bit
    .ok (window.set row changed, byte != changed)
  else .error .index

/-- Changes the window likewise. -/
@[inline] def withWindow : Sketch → (Array UInt8 → Except Fault (Array UInt8 × Bool)) →
    Except Fault (Sketch × Bool)
  | ⟨precision, seed, firstInteresting, numCoupons, table, offset, window, merged, hipState⟩, change =>
    match change window with
    | .error fault => .error fault
    | .ok (window, novel) =>
      .ok (⟨precision, seed, firstInteresting, numCoupons, table, offset, window, merged, hipState⟩, novel)

/-- Sets window bits for pairs, whose columns are below eight. -/
def markAll : List Pair → Array UInt8 → Except Fault (Array UInt8)
  | [], window => .ok window
  | pair :: rest, window =>
    match setWindowBit window pair.row pair.column with
    | .error fault => .error fault
    | .ok (window, _) => markAll rest window

/-- The historical state with a new coupon in `column`. That of a merged counter stands
still. -/
def chargedHip (s : Sketch) (column : Nat) : Hip :=
  if s.merged then s.hipState else s.hipState.charge s.precision column

/-- The historical state with the probability mass of a matrix, likewise. -/
def refreshedHip (s : Sketch) (m : BitMatrix) : Hip :=
  if s.merged then s.hipState else s.hipState.refresh m

/-- Counts a new coupon. -/
def charge (s : Sketch) (pair : Pair) : Sketch :=
  { s with
    numCoupons := s.numCoupons + 1
    hipState := s.chargedHip pair.column }

/-- A window byte of a row. -/
def windowByte (offset : Nat) (row : UInt64) : UInt8 := (row >>> UInt64.ofNat offset).toUInt8

/-- The cells of a row that the window does not hold and that are not what their
side of the window implies. -/
def surprises (offset : Nat) (row : UInt64) : UInt64 :=
  (row &&& ~~~(0xff <<< UInt64.ofNat offset)) ^^^ Row.below offset

/-- The first column before the window with a gap in some row, or the offset. -/
def firstSurprise (offset : Nat) (m : BitMatrix) : Nat :=
  min (Row.firstColumn (m.foldl (fun seen row => seen ||| surprises offset row) 0)) offset

/-- Lays the matrix out around a window at `offset`, with the surprises added to
`table`. -/
def layOut (s : Sketch) (offset : Nat) (table : PairTable) (m : BitMatrix) :
    Except Fault Sketch :=
  match table.insertAll (BitMatrix.pairs (m.map (surprises offset))) with
  | .error fault => .error fault
  | .ok table =>
    .ok { s with
      firstInteresting := firstSurprise offset m
      table := table
      offset := offset
      window := m.map (windowByte offset) }

/-- Moves the window by one column. Every eighth move also sums the probability
mass afresh. -/
def slide (s : Sketch) : Except Fault Sketch :=
  let offset := s.offset + 1
  if lastWindowOffset < offset then .error (.windowOffset offset)
  else
    match s.bitMatrix? with
    | .error fault => .error fault
    | .ok m =>
      let hipState := if offset % 8 = 0 then s.refreshedHip m else s.hipState
      layOut { s with hipState := hipState } offset s.table.clear m

/-- Sets up the window: the first eight columns go there, the others stay in a table. -/
def openWindow (s : Sketch) : Except Fault Sketch :=
  let isEarly (pair : Pair) : Bool := pair.column < 8
  let items := s.table.items
  match markAll (items.filter isEarly) (Array.replicate s.precision.rows 0) with
  | .error fault => .error fault
  | .ok window =>
    match (PairTable.empty s.precision).insertAll (items.filter (!isEarly ·)) with
    | .error fault => .error fault
    | .ok table => .ok { s with table := table, window := window }

def collectSparse (s : Sketch) (pair : Pair) : Except Fault Sketch :=
  match s.withTable (·.insert pair) with
  | .error fault => .error fault
  | .ok (s, false) => .ok s
  | .ok (s, true) =>
    let s := s.charge pair
    if 3 * s.precision.rows ≤ 32 * s.numCoupons then s.openWindow else .ok s

/-- Records a cell; the answer says whether it was clear. A cell before the window
is clear where the table names it. -/
def record (s : Sketch) (pair : Pair) : Except Fault (Sketch × Bool) :=
  if pair.column < s.offset then s.withTable (·.erase pair)
  else if pair.column < s.offset + 8 then
    let bit := pair.column - s.offset
    s.withWindow (setWindowBit · pair.row bit)
  else s.withTable (·.insert pair)

def collectWindowed (s : Sketch) (pair : Pair) : Except Fault Sketch :=
  match s.record pair with
  | .error fault => .error fault
  | .ok (s, false) => .ok s
  | .ok (s, true) =>
    let s := s.charge pair
    if (27 + 8 * s.offset) * s.precision.rows ≤ 8 * s.numCoupons then s.slide else .ok s

/-- Collects a coupon. -/
def collect (s : Sketch) (pair : Pair) : Except Fault Sketch :=
  if pair.column < s.firstInteresting then .ok s
  else if s.window.isEmpty then s.collectSparse pair
  else s.collectWindowed pair

def collectAll : List Pair → Sketch → Except Fault Sketch
  | [], s => .ok s
  | pair :: rest, s =>
    match s.collect pair with
    | .error fault => .error fault
    | .ok s => collectAll rest s

/-- Counts an item, given as its bytes. -/
def update (s : Sketch) (bytes : List UInt8) : Except Fault Sketch :=
  s.collect (Pair.ofHash s.precision (Hash.digest s.seed bytes))

/-- A merged counter that has collected exactly the cells of a matrix. The count of
cells is kept modulo 2^32. -/
def ofBitMatrix (p : Precision) (seed : UInt64) (m : BitMatrix) : Except Fault Sketch :=
  let s := { newMerged p seed with numCoupons := m.count % 2 ^ 32 }
  match s.flavor with
  | .empty => .ok s
  | .sparse =>
    match s.table.insertAll m.pairs with
    | .error fault => .error fault
    | .ok table => .ok { s with table := table }
  | .hybrid | .pinned | .sliding =>
    match PairTable.new (max (p.lgK - 4) 2) p.pairBits with
    | .error fault => .error fault
    | .ok table => layOut s (windowOffset p s.numCoupons) table m

end DistinctCount.Sketch
