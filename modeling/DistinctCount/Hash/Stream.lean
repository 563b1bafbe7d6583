import DistinctCount.Hash.Lanes

/-! Hashing of a byte stream that arrives in chunks. Bytes wait in a buffer until a block
of sixteen is full. A chunk first completes the block that waits, then its own whole
blocks are mixed in, and the bytes left over wait for the next chunk. -/
namespace DistinctCount.Hash

/-- The bytes of `buffer` with those from `start` on replaced by `chunk`. -/
def overwrite (buffer : List UInt8) (start : Nat) (chunk : List UInt8) : List UInt8 :=
  buffer.take start ++ chunk ++ buffer.drop (start + chunk.length)

theorem length_overwrite {buffer chunk : List UInt8} {start : Nat}
    (fits : start + chunk.length ≤ buffer.length) :
    (overwrite buffer start chunk).length = buffer.length := by
  simp only [overwrite, List.length_append, List.length_take, List.length_drop]
  omega

theorem take_overwrite {buffer chunk : List UInt8} {start : Nat} (inside : start ≤ buffer.length) :
    (overwrite buffer start chunk).take (start + chunk.length) = buffer.take start ++ chunk := by
  apply List.take_left'
  rw [List.length_append, List.length_take_of_le inside]

/-- The first `count` blocks of a byte string. -/
def blocks : (count : Nat) → List UInt8 → List (List UInt8)
  | 0, _ => []
  | count + 1, bytes => bytes.take 16 :: blocks count (bytes.drop 16)

structure Stream where
  lanes : Lanes
  /-- The first `filled` bytes wait for their block to be full. The others are left from
  blocks before it. -/
  buffer : List UInt8
  filled : Nat
  /-- The number of bytes so far, modulo 2^64. -/
  length : UInt64
  buffer_length : buffer.length = 16
  filled_lt : filled < 16
deriving DecidableEq, Repr

namespace Stream

def ofSeed (seed : UInt64) : Stream where
  lanes := Lanes.ofSeed seed
  buffer := List.replicate 16 0
  filled := 0
  length := 0
  buffer_length := List.length_replicate
  filled_lt := by decide

/-- The bytes since the last full block, in order of arrival. -/
def pending (stream : Stream) : List UInt8 := stream.buffer.take stream.filled

/-- Mixes in the whole blocks of `bytes` and keeps the rest. Nothing may be waiting. -/
def writeBlocks (stream : Stream) (bytes : List UInt8) : Stream :=
  let count := bytes.length / 16
  let rest := bytes.drop (16 * count)
  have short : rest.length < 16 := by
    simp only [rest, count, List.length_drop]
    omega
  { stream with
    lanes := (blocks count bytes).foldl Lanes.absorb stream.lanes
    buffer := overwrite stream.buffer 0 rest
    filled := rest.length
    buffer_length := (length_overwrite (by rw [stream.buffer_length]; omega)).trans stream.buffer_length
    filled_lt := short }

def write (stream : Stream) (bytes : List UInt8) : Stream :=
  let length := stream.length + UInt64.ofNat bytes.length
  if stream.filled = 0 then writeBlocks { stream with length } bytes
  else
    let taken := min (16 - stream.filled) bytes.length
    let buffer := overwrite stream.buffer stream.filled (bytes.take taken)
    have full : buffer.length = 16 := by
      have := stream.filled_lt
      refine (length_overwrite ?_).trans stream.buffer_length
      rw [stream.buffer_length, List.length_take]
      omega
    if more : stream.filled + taken < 16 then
      { stream with
        buffer := buffer, filled := stream.filled + taken, length := length
        buffer_length := full, filled_lt := more }
    else
      writeBlocks
        { stream with
          lanes := stream.lanes.absorb buffer, buffer := buffer, filled := 0, length := length
          buffer_length := full, filled_lt := by decide }
        (bytes.drop taken)

/-- The hash of everything written so far; the stream can go on. -/
def digest (stream : Stream) : Lanes :=
  (stream.lanes.absorbTail stream.pending).finish stream.length

end Stream

/-- The hash of a whole byte string. -/
def digest (seed : UInt64) (bytes : List UInt8) : Lanes :=
  ((Stream.ofSeed seed).write bytes).digest

/-- The seed of a counter for which none is chosen. -/
def defaultSeed : UInt64 := 9001

/-- A 16-bit fingerprint of a seed. Images carry it in place of the seed, and
counters with different fingerprints are never combined. -/
def seedHash (seed : UInt64) : UInt16 :=
  (digest 0 (LittleEndian.word64 seed)).first.toUInt16

end DistinctCount.Hash
