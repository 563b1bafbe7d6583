import DistinctCount.Code.Tree
import DistinctCount.Error

/-! Reading bits out of 32-bit words, least significant bit first. Reading past the
last word is an error. -/
namespace DistinctCount

structure BitReader where
  words : Array UInt32
  position : Nat
deriving DecidableEq, Repr

namespace BitReader

def ofWords (words : Array UInt32) : BitReader := ⟨words, 0⟩

/-- The next `count` bits, at most 32, without moving on. -/
def peek (r : BitReader) (count : Nat) : Except ImageError Nat :=
  if count = 0 then .ok 0
  else if 32 * r.words.size < r.position + count then .error (.truncated .bitStream)
  else
    let index := r.position / 32
    let low := (r.words.getD index 0).toNat
    let high := (r.words.getD (index + 1) 0).toNat
    .ok ((low + high <<< 32) >>> (r.position % 32) % 2 ^ count)

def skip (r : BitReader) (count : Nat) : BitReader := { r with position := r.position + count }

def read (r : BitReader) (count : Nat) : Except ImageError (Nat × BitReader) :=
  match r.peek count with
  | .error e => .error e
  | .ok value => .ok (value, r.skip count)

/-- Reads the symbol of one code word. Twelve bits have to be there, however short
the word is. -/
def readSymbol (r : BitReader) (tree : CodeTree) : Except ImageError (Nat × BitReader) :=
  match r.peek 12 with
  | .error e => .error e
  | .ok input =>
    let (symbol, length) := tree.find input 0
    .ok (symbol, r.skip length)

/-- The first set bit of a byte that is not zero. -/
def firstOne (byte : Nat) : Nat := ((List.range 8).find? byte.testBit).getD 8

/-- Counts zeros up to a one, a byte at a time and for at most `rounds` bytes. -/
def countZeros : (rounds zeros : Nat) → BitReader → Except ImageError (Nat × BitReader)
  | 0, _, _ => .error .unaryRange
  | rounds + 1, zeros, r =>
    match r.peek 8 with
    | .error e => .error e
    | .ok byte =>
      if byte = 0 then countZeros rounds (zeros + 8) (r.skip 8)
      else .ok (zeros + firstOne byte, r.skip (firstOne byte + 1))

/-- Reads zeros up to a one. More than `limit` zeros are an error, which is noticed
as soon as the bytes read so far hold that many. -/
def readUnary (r : BitReader) (limit : Nat) : Except ImageError (Nat × BitReader) :=
  match countZeros (limit / 8 + 1) 0 r with
  | .error e => .error e
  | .ok (zeros, r) => if limit < zeros then .error .unaryRange else .ok (zeros, r)

end BitReader
end DistinctCount
