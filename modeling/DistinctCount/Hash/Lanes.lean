import DistinctCount.LittleEndian

/-! The two 64-bit lanes of the 128-bit hash, and how a block of sixteen bytes,
a shorter tail and the total length enter them. -/
namespace DistinctCount.Hash

structure Lanes where
  first : UInt64
  second : UInt64
deriving DecidableEq, Repr

def rotateLeft (x count : UInt64) : UInt64 := x <<< count ||| x >>> (64 - count)

/-- At most eight bytes as one word; missing high bytes are zero. -/
def word (bytes : List UInt8) : UInt64 := UInt64.ofNat (LittleEndian.toNat bytes)

def multiplier1 : UInt64 := 0x87c37b91114253d5
def multiplier2 : UInt64 := 0x4cf5ad432745937f

def scramble1 (k : UInt64) : UInt64 := rotateLeft (k * multiplier1) 31 * multiplier2
def scramble2 (k : UInt64) : UInt64 := rotateLeft (k * multiplier2) 33 * multiplier1

/-- Spreads every bit of a lane over the whole lane. -/
def avalanche (x : UInt64) : UInt64 :=
  let x := (x ^^^ x >>> 33) * 0xff51afd7ed558ccd
  let x := (x ^^^ x >>> 33) * 0xc4ceb9fe1a85ec53
  x ^^^ x >>> 33

namespace Lanes

/-- Both lanes start at the seed. -/
def ofSeed (seed : UInt64) : Lanes := ⟨seed, seed⟩

/-- Mixes one block of sixteen bytes into the lanes. -/
def absorb (lanes : Lanes) (block : List UInt8) : Lanes :=
  let first := rotateLeft (lanes.first ^^^ scramble1 (word (block.take 8))) 27 + lanes.second
  let first := first * 5 + 0x52dce729
  let second := rotateLeft (lanes.second ^^^ scramble2 (word (block.drop 8))) 31 + first
  ⟨first, second * 5 + 0x38495ab5⟩

/-- Mixes in the fewer than sixteen bytes left after the last block. Scrambling
zero gives zero, so a lane with no tail bytes stays as it was. -/
def absorbTail (lanes : Lanes) (tail : List UInt8) : Lanes :=
  ⟨lanes.first ^^^ scramble1 (word (tail.take 8)), lanes.second ^^^ scramble2 (word (tail.drop 8))⟩

/-- Folds in the total length and lets the lanes influence each other. -/
def finish (lanes : Lanes) (length : UInt64) : Lanes :=
  let first := lanes.first ^^^ length
  let second := lanes.second ^^^ length
  let first := first + second
  let second := second + first
  let first := avalanche first
  let second := avalanche second
  ⟨first + second, second + (first + second)⟩

end Lanes
end DistinctCount.Hash
