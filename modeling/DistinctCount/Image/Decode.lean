import DistinctCount.Image.Pairs
import DistinctCount.Image.Preamble
import DistinctCount.Image.Window
import DistinctCount.Sketch.Update

/-! Reading an image back. Every byte has to belong to the image, and the decoded
cells have to be as many as the head says. -/
namespace DistinctCount

namespace Image

def readWordsInto : (count : Nat) → List UInt8 → Array UInt32 → Array UInt32 × List UInt8
  | 0, bytes, words => (words, bytes)
  | count + 1, bytes, words =>
    readWordsInto count (bytes.drop 4)
      (words.push (UInt32.ofNat (LittleEndian.toNat (bytes.take 4))))

/-- Reads `count` words. -/
def readWords (count : Nat) (part : ImagePart) (bytes : List UInt8) :
    Except ImageError (Array UInt32 × List UInt8) :=
  if bytes.length < 4 * count then .error (.truncated part)
  else .ok (readWordsInto count bytes #[])

/-- The three parts of an image. -/
structure Sections where
  preamble : Preamble
  window : Array UInt32
  table : Array UInt32

/-- Takes an image apart. The seed hash is looked at before the data. -/
def sections (seed : UInt64) (bytes : List UInt8) : Except Error Sections :=
  match Preamble.read bytes with
  | .error e => .error (.image e)
  | .ok (preamble, bytes) =>
    let expected := Hash.seedHash seed
    if expected ≠ preamble.seedHash then .error (.seedHash expected preamble.seedHash)
    else
      match readWords preamble.windowWords.toNat .windowData bytes with
      | .error e => .error (.image e)
      | .ok (window, bytes) =>
        match readWords preamble.tableWords.toNat .tableData bytes with
        | .error e => .error (.image e)
        | .ok (table, bytes) =>
          if bytes.isEmpty then .ok ⟨preamble, window, table⟩
          else .error (.image (.trailing bytes.length))

/-- The column of a pair as written beside a window. -/
def decodeColumn (flavor : Flavor) (phase offset code : Nat) : Except ImageError Nat :=
  if flavor = .pinned then if code < 56 then .ok (code + 8) else .error (.pinnedColumn code)
  else
    match ColumnOrder.column? phase offset code with
    | some column => .ok column
    | none => .error (.slidingColumn code)

/-- The surprises beside a window, in the order in which they are written. -/
def decodeSurprises (flavor : Flavor) (phase offset : Nat) :
    List Pair → Array Pair → Except ImageError (List Pair)
  | [], surprises => .ok surprises.toList
  | pair :: rest, surprises =>
    match decodeColumn flavor phase offset pair.column with
    | .error e => .error e
    | .ok column =>
      let surprise := Pair.pack pair.row column
      if surprise = Pair.vacant then .error .vacantPair
      else decodeSurprises flavor phase offset rest (surprises.push surprise)

/-- Puts pairs into the table of a counter. -/
def fillTable (s : Sketch) (pairs : List Pair) : Except Fault Sketch :=
  match PairTable.ofItems s.precision.pairBits pairs with
  | .error fault => .error fault
  | .ok table => .ok { s with table := table }

/-- Shares the coupons of a hybrid image out between a window and the table. -/
def fillHybrid (s : Sketch) (pairs : List Pair) : Except Fault Sketch :=
  let isEarly (pair : Pair) : Bool := pair.column < 8
  match Sketch.markAll (pairs.filter isEarly) (Array.replicate s.precision.rows 0) with
  | .error fault => .error fault
  | .ok window => fillTable { s with window := window } (pairs.filter (!isEarly ·))

/-- Fills a counter with the window and the surprises of a pinned or sliding image. -/
def fillWindowed (s : Sketch) (words : Array UInt32) (pairs : List Pair) :
    Except Failure Sketch := do
  let coupons := s.numCoupons
  let window ← Failure.ofImage (WindowStream.decode s.precision coupons words)
  let offset := windowOffset s.precision coupons
  Failure.ofImage (ensure (offset ≤ lastWindowOffset) (.windowOffset offset coupons))
  let phase := windowPhase s.precision coupons
  let surprises ← Failure.ofImage (decodeSurprises s.flavor phase offset pairs #[])
  Failure.ofFault (fillTable { s with window := window, offset := offset } surprises)

end Image

namespace Sketch

/-- Fills a counter of the right number of coupons with decoded data. -/
def fill (s : Sketch) (window : Array UInt32) (pairs : List Pair) : Except Failure Sketch :=
  match s.flavor with
  | .empty => .ok s
  | .sparse => Failure.ofFault (Image.fillTable s pairs)
  | .hybrid => Failure.ofFault (Image.fillHybrid s pairs)
  | .pinned | .sliding => Image.fillWindowed s window pairs

/-- The counter of a head, which the data of the image is to be filled into. -/
def ofHead (seed : UInt64) (preamble : Preamble) : Sketch :=
  { new preamble.precision seed with
    numCoupons := preamble.coupons.toNat
    merged := preamble.merged
    hipState :=
      if preamble.merged then Hip.start preamble.precision else preamble.hipState }

/-- The counter of an image that was made with a seed of this seed hash. -/
def ofImage (seed : UInt64) (bytes : List UInt8) : Except Failure Sketch := do
  let image ← Failure.ofError (Image.sections seed bytes)
  let preamble := image.preamble
  let coupons := preamble.coupons.toNat
  let pairs ← Failure.ofImage
    (PairStream.decode preamble.precision image.table preamble.tableEntries.toNat)
  let s ← (ofHead seed preamble).fill image.window pairs
  let firstInteresting := preamble.firstInteresting.toNat
  Failure.ofImage
    (ensure (firstInteresting ≤ s.offset) (.interestingPastOffset firstInteresting s.offset))
  Failure.ofImage (ensure (s.tally == coupons) (.couponCount s.tally coupons))
  return { s with firstInteresting := firstInteresting }

end Sketch
end DistinctCount
