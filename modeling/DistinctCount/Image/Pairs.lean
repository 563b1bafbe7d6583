import DistinctCount.BitStream.Reader
import DistinctCount.BitStream.Writer
import DistinctCount.Code.Column
import DistinctCount.Pair

/-! Ascending pairs as a bit stream. Of each pair the column is written as its
difference from the least column possible after the pair before it, and the row as
its difference from the row before: a quotient in unary and some low bits. -/
namespace DistinctCount.PairStream

/-- How many low bits of a row difference are written as they are, when `count` rows
are spread over all rows. -/
def baseBits (p : Precision) (count : Nat) : Nat := Nat.log2 (p.rows / count)

/-- The least column of a pair in `row` that comes after the pairs up to `column` of
the row `lastRow`. -/
def leastColumn (lastRow column row : Nat) : Nat := if row = lastRow then column else 0

def writePair (base lastRow column : Nat) (pair : Pair) (w : BitWriter) : BitWriter :=
  let delta := pair.row - lastRow
  let word := columnDeltaCode.word (pair.column - leastColumn lastRow column pair.row)
  ((w.writeWord word).writeUnary (delta >>> base)).write (delta % 2 ^ base) base

def writePairs (base : Nat) : (lastRow column : Nat) → List Pair → BitWriter → BitWriter
  | _, _, [], w => w
  | lastRow, column, pair :: rest, w =>
    writePairs base pair.row (pair.column + 1) rest (writePair base lastRow column pair w)

/-- The words of strictly ascending pairs. They end in enough zeros for a reader
that looks twelve bits ahead. -/
def encode (p : Precision) (pairs : List Pair) : Array UInt32 :=
  if pairs.isEmpty then #[]
  else
    let base := baseBits p pairs.length
    ((writePairs base 0 0 pairs .empty).pad (10 - base)).finish

def readPair (p : Precision) (base lastRow column : Nat) (r : BitReader) :
    Except ImageError (Pair × BitReader) :=
  match r.readSymbol columnDeltaCode.tree with
  | .error e => .error e
  | .ok (columnDelta, r) =>
    match r.readUnary (p.rows >>> base) with
    | .error e => .error e
    | .ok (quotient, r) =>
      match r.read base with
      | .error e => .error e
      | .ok (low, r) =>
        let row := lastRow + (quotient * 2 ^ base + low)
        let column := leastColumn lastRow column row + columnDelta
        if p.rows ≤ row then .error (.row row p.lgK)
        else if 63 < column then .error (.columnDelta columnDelta column)
        else if Pair.pack row column = Pair.vacant then .error .vacantPair
        else .ok (Pair.pack row column, r)

def readPairs (p : Precision) (base : Nat) :
    (count lastRow column : Nat) → BitReader → Array Pair →
      Except ImageError (Array Pair × BitReader)
  | 0, _, _, r, pairs => .ok (pairs, r)
  | count + 1, lastRow, column, r, pairs =>
    match readPair p base lastRow column r with
    | .error e => .error e
    | .ok (pair, r) => readPairs p base count pair.row (pair.column + 1) r (pairs.push pair)

/-- Reads `count` pairs, which come out strictly ascending, and says where the
reading stopped. -/
def decodeFrom (p : Precision) (words : Array UInt32) (count : Nat) :
    Except ImageError (Array Pair × BitReader) :=
  readPairs p (baseBits p count) count 0 0 (.ofWords words) #[]

def decode (p : Precision) (words : Array UInt32) (count : Nat) :
    Except ImageError (List Pair) :=
  match decodeFrom p words count with
  | .error e => .error e
  | .ok (pairs, _) => .ok pairs.toList

end DistinctCount.PairStream
