import DistinctCount.Code.Tree

/-! Writing bits into 32-bit words, least significant bit first. -/
namespace DistinctCount

structure BitWriter where
  words : Array UInt32
  /-- The bits after the last full word, of which there are `pending`. -/
  buffer : Nat
  pending : Nat
deriving DecidableEq, Repr

namespace BitWriter

def empty : BitWriter := ⟨#[], 0, 0⟩

/-- Moves a full word out of the buffer. -/
def flush : BitWriter → BitWriter
  | ⟨words, buffer, pending⟩ =>
    if 32 ≤ pending then ⟨words.push (UInt32.ofNat buffer), buffer >>> 32, pending - 32⟩
    else ⟨words, buffer, pending⟩

/-- Appends the `count` low bits of `value`, at most 32, which has no others. -/
def write : BitWriter → (value count : Nat) → BitWriter
  | ⟨words, buffer, pending⟩, value, count =>
    flush ⟨words, buffer ||| value <<< pending, pending + count⟩

def writeWord (w : BitWriter) (word : CodeWord) : BitWriter := w.write word.bits word.length

/-- Appends `count` zeros, at most 32. -/
def pad (w : BitWriter) (count : Nat) : BitWriter := w.write 0 count

/-- Appends sixteen zeros `times` over. -/
def padSixteens : (times : Nat) → BitWriter → BitWriter
  | 0, w => w
  | times + 1, w => padSixteens times (w.pad 16)

/-- Appends `value` zeros and a one. -/
def writeUnary (w : BitWriter) (value : Nat) : BitWriter :=
  (padSixteens (value / 16) w).write (1 <<< (value % 16)) (value % 16 + 1)

/-- The words, the last one filled up with zeros. -/
def finish : BitWriter → Array UInt32
  | ⟨words, buffer, pending⟩ => if 0 < pending then words.push (UInt32.ofNat buffer) else words

end BitWriter
end DistinctCount
