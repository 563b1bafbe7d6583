import DistinctCount.Hash.Stream
import Mathlib.Data.Nat.Bitwise

/-! A stream hashes the bytes and not the chunks. However a byte string is cut, the stream
ends with the blocks of the whole string in its lanes and the bytes behind them in its
buffer, whatever older bytes the buffer still holds. So its digest is the hash of the
string, which is defined here over places in the string and not over a buffer. -/
namespace DistinctCount.Hash

/-! ### The hash of a whole string -/

namespace Reference

abbrev Word := BitVec 64

/-- The bytes at `count` places from `start` on, from the last to the first. Each is put at
its own eight bits of the word. -/
def gather (bytes : List UInt8) (start count : Nat) : Word :=
  (List.range count).foldr
    (fun place word => word ^^^ (bytes.getD (start + place) 0).toBitVec.setWidth 64 <<< (8 * place)) 0

def mix1 (k : Word) : Word := (k * 0x87c37b91114253d5#64).rotateLeft 31 * 0x4cf5ad432745937f#64

def mix2 (k : Word) : Word := (k * 0x4cf5ad432745937f#64).rotateLeft 33 * 0x87c37b91114253d5#64

def finalMix (k : Word) : Word :=
  let k := (k ^^^ k >>> 33) * 0xff51afd7ed558ccd#64
  let k := (k ^^^ k >>> 33) * 0xc4ceb9fe1a85ec53#64
  k ^^^ k >>> 33

/-- The block with the given number enters both lanes. -/
def mixBlock (bytes : List UInt8) (h : Word × Word) (number : Nat) : Word × Word :=
  let h1 := (h.1 ^^^ mix1 (gather bytes (16 * number) 8)).rotateLeft 27 + h.2
  let h1 := h1 * 5#64 + 0x52dce729#64
  let h2 := (h.2 ^^^ mix2 (gather bytes (16 * number + 8) 8)).rotateLeft 31 + h1
  (h1, h2 * 5#64 + 0x38495ab5#64)

/-- The bytes behind the last block enter the lanes. A lane for which there are none is left
alone. -/
def mixTail (bytes : List UInt8) (h : Word × Word) : Word × Word :=
  let start := 16 * (bytes.length / 16)
  let count := bytes.length % 16
  let h2 := if 8 < count then h.2 ^^^ mix2 (gather bytes (start + 8) (count - 8)) else h.2
  let h1 := if 0 < count then h.1 ^^^ mix1 (gather bytes start (min count 8)) else h.1
  (h1, h2)

def finish (length : Word) (h : Word × Word) : Word × Word :=
  let h1 := h.1 ^^^ length
  let h2 := h.2 ^^^ length
  let h1 := h1 + h2
  let h2 := h2 + h1
  let h1 := finalMix h1
  let h2 := finalMix h2
  let h1 := h1 + h2
  (h1, h2 + h1)

/-- The 128-bit hash of a byte string, with both lanes started at the seed. -/
def hash (seed : Word) (bytes : List UInt8) : Word × Word :=
  let body := (List.range (bytes.length / 16)).foldl (mixBlock bytes) (seed, seed)
  finish (BitVec.ofNat 64 bytes.length) (mixTail bytes body)

example : hash 0 "The quick brown fox jumps over the lazy dog".toUTF8.toList =
    (0xe34bbc7bbc071b6c#64, 0x7a433ca9c49a9347#64) := by decide +kernel

end Reference

/-! ### Words -/

variable {bytes rest chunk : List UInt8} {count start : Nat} {lanes : Lanes} {seed : UInt64}

theorem toBitVec_rotateLeft (x amount : UInt64) {n : Nat} (same : amount.toNat = n)
    (positive : 0 < n) (small : n < 64) :
    (rotateLeft x amount).toBitVec = x.toBitVec.rotateLeft n := by
  have left : (amount.toBitVec % 64).toNat = n := by
    rw [BitVec.toNat_umod, UInt64.toNat_toBitVec, same]
    exact Nat.mod_eq_of_lt small
  have right : ((64 - amount).toBitVec % 64).toNat = 64 - n := by
    have less : amount ≤ 64 := by
      rw [UInt64.le_iff_toNat_le, same]
      exact small.le
    rw [BitVec.toNat_umod, UInt64.toNat_toBitVec, UInt64.toNat_sub_of_le _ _ less, same]
    exact Nat.mod_eq_of_lt (Nat.sub_lt (by decide) positive)
  rw [rotateLeft, UInt64.toBitVec_or, UInt64.toBitVec_shiftLeft, UInt64.toBitVec_shiftRight,
    BitVec.rotateLeft_def, BitVec.shiftLeft_eq', BitVec.ushiftRight_eq', left, right,
    Nat.mod_eq_of_lt small]

theorem toBitVec_scramble1 (k : UInt64) : (scramble1 k).toBitVec = Reference.mix1 k.toBitVec := by
  rw [scramble1, UInt64.toBitVec_mul, toBitVec_rotateLeft _ 31 rfl (by decide) (by decide),
    UInt64.toBitVec_mul]
  rfl

theorem toBitVec_scramble2 (k : UInt64) : (scramble2 k).toBitVec = Reference.mix2 k.toBitVec := by
  rw [scramble2, UInt64.toBitVec_mul, toBitVec_rotateLeft _ 33 rfl (by decide) (by decide),
    UInt64.toBitVec_mul]
  rfl

theorem toBitVec_avalanche (x : UInt64) :
    (avalanche x).toBitVec = Reference.finalMix x.toBitVec := rfl

/-- A number and a byte above its bits do not meet. -/
theorem xor_above {low high width : Nat} (small : low < 2 ^ width) :
    low ^^^ high <<< width = low + 2 ^ width * high := by
  apply Nat.eq_of_testBit_eq
  intro bit
  rw [Nat.testBit_xor, Nat.testBit_shiftLeft, Nat.add_comm low, Nat.testBit_two_pow_mul_add _ small]
  split
  · rename_i below
    simp [Nat.not_le.mpr below]
  · rename_i above
    rw [Nat.testBit_lt_two_pow (small.trans_le (Nat.pow_le_pow_right (by decide) (by omega)))]
    simp [Nat.le_of_not_lt above]

/-- The last byte comes in first and is joined to the others in the end. -/
theorem gather_succ (bytes : List UInt8) (start count : Nat) :
    Reference.gather bytes start (count + 1) = Reference.gather bytes start count ^^^
      (bytes.getD (start + count) 0).toBitVec.setWidth 64 <<< (8 * count) := by
  have joined (places : List Nat) (first : Reference.Word) :
      places.foldr (fun place word =>
        word ^^^ (bytes.getD (start + place) 0).toBitVec.setWidth 64 <<< (8 * place)) first =
      places.foldr (fun place word =>
        word ^^^ (bytes.getD (start + place) 0).toBitVec.setWidth 64 <<< (8 * place)) 0 ^^^ first := by
    induction places with
    | nil => simp
    | cons place rest ih =>
      rw [List.foldr_cons, List.foldr_cons, ih, BitVec.xor_assoc, BitVec.xor_assoc, BitVec.xor_comm first]
  rw [Reference.gather, List.range_succ, List.foldr_append, joined]
  simp [Reference.gather]

/-- Bytes that are joined place by place are the number with these digits. -/
theorem toNat_gather (few : count ≤ 8) (inside : start + count ≤ bytes.length) :
    (Reference.gather bytes start count).toNat =
      LittleEndian.toNat ((bytes.drop start).take count) := by
  induction count with
  | zero => rfl
  | succ count ih =>
    have here : start + count < bytes.length := by omega
    have digits : (bytes.drop start).take (count + 1) =
        (bytes.drop start).take count ++ [bytes.getD (start + count) 0] := by
      rw [List.take_add_one, List.getElem?_drop, List.getElem?_eq_getElem here]
      simp [here]
    have length : ((bytes.drop start).take count).length = count := by
      rw [List.length_take_of_le (by rw [List.length_drop]; omega)]
    have power : (256 : Nat) ^ count = 2 ^ (8 * count) := by rw [Nat.pow_mul]
    have small := LittleEndian.toNat_lt ((bytes.drop start).take count)
    have byte := UInt8.toNat_lt (bytes.getD (start + count) 0)
    have top : (bytes.getD (start + count) 0).toNat <<< (8 * count) < 2 ^ 64 := by
      rw [Nat.shiftLeft_eq]
      calc (bytes.getD (start + count) 0).toNat * 2 ^ (8 * count)
          < 2 ^ 8 * 2 ^ (8 * count) := Nat.mul_lt_mul_of_pos_right byte (Nat.two_pow_pos _)
        _ = 2 ^ (8 + 8 * count) := (Nat.pow_add 2 8 _).symm
        _ ≤ 2 ^ 64 := Nat.pow_le_pow_right (by decide) (by omega)
    rw [length, power] at small
    rw [gather_succ, BitVec.toNat_xor, ih (by omega) (by omega), digits, LittleEndian.toNat_append,
      length, power, LittleEndian.toNat, LittleEndian.toNat, Nat.mul_zero, Nat.add_zero, BitVec.toNat_shiftLeft,
      BitVec.toNat_setWidth, UInt8.toNat_toBitVec, Nat.mod_eq_of_lt (byte.trans (by decide)),
      Nat.mod_eq_of_lt top, xor_above small]

theorem gather_eq (few : count ≤ 8) (inside : start + count ≤ bytes.length) :
    Reference.gather bytes start count = (word ((bytes.drop start).take count)).toBitVec := by
  apply BitVec.eq_of_toNat_eq
  rw [word, UInt64.toBitVec_ofNat', BitVec.toNat_ofNat, ← toNat_gather few inside,
    Nat.mod_eq_of_lt (BitVec.isLt _)]

/-! ### Blocks -/

def Lanes.words (lanes : Lanes) : Reference.Word × Reference.Word :=
  (lanes.first.toBitVec, lanes.second.toBitVec)

theorem Lanes.words_injective : Function.Injective words := by
  rintro ⟨first, second⟩ ⟨otherFirst, otherSecond⟩ same
  obtain ⟨sameFirst, sameSecond⟩ := Prod.mk.inj same
  cases UInt64.toBitVec_inj.mp sameFirst
  cases UInt64.toBitVec_inj.mp sameSecond
  rfl

/-- The block that is taken from the string enters the lanes as the one that is read at its
places. -/
theorem Lanes.words_absorb (inside : 16 * (count + 1) ≤ bytes.length) :
    (lanes.absorb ((bytes.drop (16 * count)).take 16)).words =
      Reference.mixBlock bytes lanes.words count := by
  have first : ((bytes.drop (16 * count)).take 16).take 8 = (bytes.drop (16 * count)).take 8 := by
    rw [List.take_take]
    rfl
  have second : ((bytes.drop (16 * count)).take 16).drop 8 =
      (bytes.drop (16 * count + 8)).take 8 := by
    rw [List.drop_take, List.drop_drop]
  simp only [Lanes.words, Lanes.absorb, Reference.mixBlock, first, second, UInt64.toBitVec_add,
    UInt64.toBitVec_mul, UInt64.toBitVec_ofNat, UInt64.toBitVec_xor, toBitVec_scramble1,
    toBitVec_scramble2, toBitVec_rotateLeft _ 27 (n := 27) rfl (by decide) (by decide),
    toBitVec_rotateLeft _ 31 (n := 31) rfl (by decide) (by decide),
    gather_eq (le_refl 8) (show 16 * count + 8 ≤ bytes.length by omega),
    gather_eq (le_refl 8) (show 16 * count + 8 + 8 ≤ bytes.length by omega)]

theorem blocks_add (first second : Nat) (bytes : List UInt8) :
    blocks (first + second) bytes = blocks first bytes ++ blocks second (bytes.drop (16 * first)) := by
  induction first generalizing bytes with
  | zero => simp [blocks]
  | succ first ih =>
    have order : first + 1 + second = first + second + 1 := by omega
    rw [order, blocks, blocks, ih, List.drop_drop, Nat.mul_add, Nat.add_comm (16 * first), List.cons_append]

theorem blocks_succ (count : Nat) (bytes : List UInt8) :
    blocks (count + 1) bytes = blocks count bytes ++ [(bytes.drop (16 * count)).take 16] :=
  blocks_add count 1 bytes

theorem blocks_append (inside : 16 * count ≤ bytes.length) :
    blocks count (bytes ++ rest) = blocks count bytes := by
  induction count generalizing bytes with
  | zero => rfl
  | succ count ih =>
    rw [blocks, blocks, List.take_append_of_le_length (by omega),
      List.drop_append_of_le_length (by omega), ih (by rw [List.length_drop]; omega)]

theorem Lanes.words_absorb_blocks (inside : 16 * count ≤ bytes.length) :
    ((blocks count bytes).foldl absorb lanes).words =
      (List.range count).foldl (Reference.mixBlock bytes) lanes.words := by
  induction count with
  | zero => rfl
  | succ count ih =>
    rw [blocks_succ, List.foldl_append, List.foldl_cons, List.foldl_nil, words_absorb inside,
      ih (by omega), List.range_succ, List.foldl_append, List.foldl_cons, List.foldl_nil]

theorem Lanes.words_absorbTail (bytes : List UInt8) (lanes : Lanes) :
    (lanes.absorbTail (bytes.drop (16 * (bytes.length / 16)))).words =
      Reference.mixTail bytes lanes.words := by
  generalize tail_eq : bytes.drop (16 * (bytes.length / 16)) = tail
  have length : tail.length = bytes.length % 16 := by
    rw [← tail_eq, List.length_drop]
    omega
  have first : (lanes.absorbTail tail).first.toBitVec = (Reference.mixTail bytes lanes.words).1 := by
    simp only [absorbTail, Reference.mixTail, words, UInt64.toBitVec_xor, toBitVec_scramble1]
    split
    · rw [gather_eq (by omega) (by omega), tail_eq, ← length, List.take_eq_take_min, Nat.min_comm]
    · have none : tail = [] := List.length_eq_zero_iff.mp (by omega)
      rw [none]
      simp [word, LittleEndian.toNat, Reference.mix1]
  have second : (lanes.absorbTail tail).second.toBitVec = (Reference.mixTail bytes lanes.words).2 := by
    simp only [absorbTail, Reference.mixTail, words, UInt64.toBitVec_xor, toBitVec_scramble2]
    split
    · rw [gather_eq (by omega) (by omega), ← List.drop_drop, tail_eq, List.take_of_length_le]
      rw [List.length_drop]
      omega
    · rw [List.drop_eq_nil_of_le (by omega)]
      simp [word, LittleEndian.toNat, Reference.mix2]
  exact Prod.ext first second

theorem Lanes.words_finish (lanes : Lanes) (length : UInt64) :
    (lanes.finish length).words = Reference.finish length.toBitVec lanes.words := by
  simp only [words, finish, Reference.finish, UInt64.toBitVec_add, UInt64.toBitVec_xor, toBitVec_avalanche]

/-! ### Chunks -/

namespace Stream

variable {stream : Stream}

theorem length_pending (stream : Stream) : stream.pending.length = stream.filled := by
  have := stream.filled_lt
  rw [pending, List.length_take_of_le (by rw [stream.buffer_length]; omega)]

/-- The blocks of a byte string are in the lanes, and the bytes behind them wait. -/
structure Absorbed (stream : Stream) (seed : UInt64) (bytes : List UInt8) : Prop where
  lanes : stream.lanes = (blocks (bytes.length / 16) bytes).foldl Lanes.absorb (Lanes.ofSeed seed)
  pending : stream.pending = bytes.drop (16 * (bytes.length / 16))

namespace Absorbed

theorem filled (absorbed : stream.Absorbed seed bytes) : stream.filled = bytes.length % 16 := by
  rw [← length_pending, absorbed.pending, List.length_drop]
  omega

/-- Bytes that do not fill the block wait behind those before them. -/
theorem wait {after : Stream} (absorbed : stream.Absorbed seed bytes)
    (lanes : after.lanes = stream.lanes) (pending : after.pending = stream.pending ++ chunk)
    (short : stream.filled + chunk.length < 16) : after.Absorbed seed (bytes ++ chunk) := by
  have filled := absorbed.filled
  have same : (bytes ++ chunk).length / 16 = bytes.length / 16 := by
    rw [List.length_append]
    omega
  constructor
  · rw [lanes, absorbed.lanes, same, blocks_append (by omega)]
  · rw [pending, absorbed.pending, same, List.drop_append_of_le_length (by omega)]

/-- Bytes that complete the block enter the lanes with those before them. -/
theorem complete {after : Stream} (absorbed : stream.Absorbed seed bytes)
    (lanes : after.lanes = stream.lanes.absorb (stream.pending ++ chunk)) (none : after.filled = 0)
    (full : stream.filled + chunk.length = 16) : after.Absorbed seed (bytes ++ chunk) := by
  have filled := absorbed.filled
  have next : (bytes ++ chunk).length / 16 = bytes.length / 16 + 1 := by
    rw [List.length_append]
    omega
  have block : ((bytes ++ chunk).drop (16 * (bytes.length / 16))).take 16 =
      stream.pending ++ chunk := by
    rw [List.drop_append_of_le_length (by omega), ← absorbed.pending, List.take_of_length_le]
    rw [List.length_append, length_pending, full]
  constructor
  · rw [lanes, absorbed.lanes, next, blocks_succ, block, blocks_append (by omega), List.foldl_append,
      List.foldl_cons, List.foldl_nil]
  · rw [Stream.pending, none, List.take_zero, List.drop_eq_nil_of_le]
    rw [next, List.length_append]
    omega

/-- Where nothing waits, the blocks of a chunk are blocks of the string. -/
theorem writeBlocks (absorbed : stream.Absorbed seed bytes) (none : stream.filled = 0)
    (chunk : List UInt8) : (stream.writeBlocks chunk).Absorbed seed (bytes ++ chunk) := by
  have filled := absorbed.filled
  have whole : 16 * (bytes.length / 16) = bytes.length := by omega
  have more : (bytes ++ chunk).length / 16 = bytes.length / 16 + chunk.length / 16 := by
    rw [List.length_append]
    omega
  constructor
  · rw [more, blocks_add, blocks_append (by omega), whole, List.drop_left, List.foldl_append,
      ← absorbed.lanes, Stream.writeBlocks]
  · have kept := @take_overwrite stream.buffer (chunk.drop (16 * (chunk.length / 16))) 0 (Nat.zero_le _)
    rw [Nat.zero_add, List.take_zero, List.nil_append] at kept
    rw [more, Nat.mul_add, whole, List.drop_append, Nat.add_sub_cancel_left,
      List.drop_eq_nil_of_le (Nat.le_add_right _ _), List.nil_append]
    exact kept

/-- A chunk goes behind the bytes before it, however many of them wait and however long
it is. -/
theorem write (absorbed : stream.Absorbed seed bytes) (chunk : List UInt8) :
    (stream.write chunk).Absorbed seed (bytes ++ chunk) := by
  have filled_lt := stream.filled_lt
  have size := stream.buffer_length
  have kept (more : List UInt8) :
      (overwrite stream.buffer stream.filled more).take (stream.filled + more.length) =
        stream.pending ++ more := take_overwrite (by omega)
  simp only [Stream.write]
  split
  · rename_i none
    have counted : Absorbed { stream with length := stream.length + UInt64.ofNat chunk.length } seed
        bytes := ⟨absorbed.lanes, absorbed.pending⟩
    exact counted.writeBlocks none chunk
  · split
    · rename_i short
      have all : min (16 - stream.filled) chunk.length = chunk.length := by omega
      apply absorbed.wait
      · rfl
      · simp only [Stream.pending, all, List.take_length]
        exact kept chunk
      · omega
    · rename_i long
      have taken : min (16 - stream.filled) chunk.length = 16 - stream.filled := by omega
      have length : (chunk.take (16 - stream.filled)).length = 16 - stream.filled :=
        List.length_take_of_le (by omega)
      have block : overwrite stream.buffer stream.filled (chunk.take (16 - stream.filled)) =
          stream.pending ++ chunk.take (16 - stream.filled) := by
        have size := length_overwrite
          (show stream.filled + (chunk.take (16 - stream.filled)).length ≤ stream.buffer.length by omega)
        rw [← kept]
        exact (List.take_of_length_le (by omega)).symm
      simp only [taken, block]
      have parts : bytes ++ chunk =
          bytes ++ chunk.take (16 - stream.filled) ++ chunk.drop (16 - stream.filled) := by
        rw [List.append_assoc, List.take_append_drop]
      rw [parts]
      apply Absorbed.writeBlocks
      · apply absorbed.complete
        · rfl
        · rfl
        · omega
      · rfl

end Absorbed
structure Holds (stream : Stream) (seed : UInt64) (bytes : List UInt8) : Prop
    extends Absorbed stream seed bytes where
  length : stream.length = UInt64.ofNat bytes.length

theorem length_write (stream : Stream) (chunk : List UInt8) :
    (stream.write chunk).length = stream.length + UInt64.ofNat chunk.length := by
  simp only [write]
  split
  · rfl
  · split <;> rfl

theorem Holds.write (holds : stream.Holds seed bytes) (chunk : List UInt8) :
    (stream.write chunk).Holds seed (bytes ++ chunk) := by
  refine ⟨holds.toAbsorbed.write chunk, ?_⟩
  rw [length_write, holds.length, List.length_append, UInt64.ofNat_add]

/-- Chunks that are written one after the other are written as one string. -/
theorem Holds.writeAll (holds : stream.Holds seed bytes) (chunks : List (List UInt8)) :
    (chunks.foldl Stream.write stream).Holds seed (bytes ++ chunks.flatten) := by
  induction chunks generalizing stream bytes with
  | nil => simpa using holds
  | cons chunk rest ih =>
    rw [List.foldl_cons, List.flatten_cons, ← List.append_assoc]
    exact ih (holds.write chunk)

theorem ofSeed_holds (seed : UInt64) : (ofSeed seed).Holds seed [] := ⟨⟨rfl, rfl⟩, rfl⟩

theorem Holds.digest_eq (holds : stream.Holds seed bytes) :
    stream.digest.words = Reference.hash seed.toBitVec bytes := by
  rw [digest, Lanes.words_finish, holds.pending, Lanes.words_absorbTail, holds.lanes, holds.length,
    Lanes.words_absorb_blocks (by omega), UInt64.toBitVec_ofNat']
  rfl

/-- Whatever chunks a byte string arrives in, empty ones included, the digest of the stream
is the hash of the whole string. So it is the same as for the string in one piece. -/
theorem digest_chunks (seed : UInt64) (chunks : List (List UInt8)) :
    (chunks.foldl write (ofSeed seed)).digest.words = Reference.hash seed.toBitVec chunks.flatten ∧
      (chunks.foldl write (ofSeed seed)).digest = Hash.digest seed chunks.flatten := by
  have holds := (ofSeed_holds seed).writeAll chunks
  have whole := (ofSeed_holds seed).write chunks.flatten
  exact ⟨holds.digest_eq, Lanes.words_injective (holds.digest_eq.trans whole.digest_eq.symm)⟩

end Stream
end DistinctCount.Hash
