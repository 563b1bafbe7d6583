import DistinctCount.BitStream.Reader
import DistinctCount.BitStream.Writer
import Mathlib.Data.Nat.Bitwise
import Mathlib.Tactic.Ring

/-! Bit streams as lists of bits. A writer stands for the bits written so far and a
reader for the bits that are still to come. Each way of writing appends the bits of
what it writes, and each way of reading takes them off again. -/
namespace DistinctCount

namespace Bits

/-- The `count` low bits of a number, least significant first. -/
def ofNat : (count n : Nat) → List Bool
  | 0, _ => []
  | count + 1, n => n.testBit 0 :: ofNat count (n / 2)

def toNat : List Bool → Nat
  | [] => 0
  | bit :: rest => bit.toNat + 2 * toNat rest

@[simp] theorem length_ofNat (count n : Nat) : (ofNat count n).length = count := by
  induction count generalizing n with
  | zero => rfl
  | succ count ih => rw [ofNat, List.length_cons, ih]

theorem ofNat_eq_map (count n : Nat) : ofNat count n = (List.range count).map n.testBit := by
  induction count generalizing n with
  | zero => rfl
  | succ count ih =>
    rw [ofNat, ih, List.range_succ_eq_map, List.map_cons, List.map_map]
    congr 1
    apply List.map_congr_left
    intro index _
    rw [Function.comp_apply, Nat.testBit_succ]

theorem ofNat_mod {count width : Nat} (n : Nat) (within : count ≤ width) :
    ofNat count (n % 2 ^ width) = ofNat count n := by
  rw [ofNat_eq_map, ofNat_eq_map]
  apply List.map_congr_left
  intro index member
  have small : index < width := (List.mem_range.mp member).trans_le within
  simp [Nat.testBit_mod_two_pow, small]

theorem ofNat_add (low high n : Nat) :
    ofNat (low + high) n = ofNat low n ++ ofNat high (n / 2 ^ low) := by
  induction low generalizing n with
  | zero => simp [ofNat]
  | succ low ih =>
    rw [Nat.succ_add, ofNat, ofNat, ih, List.cons_append, Nat.div_div_eq_div_mul, Nat.pow_succ,
      Nat.mul_comm 2]

theorem ofNat_zero (count : Nat) : ofNat count 0 = List.replicate count false := by
  induction count with
  | zero => rfl
  | succ count ih => rw [ofNat, Nat.zero_div, ih, Nat.zero_testBit, List.replicate_succ]

theorem toNat_ofNat (count n : Nat) : toNat (ofNat count n) = n % 2 ^ count := by
  induction count generalizing n with
  | zero => simp [ofNat, toNat, Nat.mod_one]
  | succ count ih =>
    rw [ofNat, toNat, ih, Nat.testBit_zero, Nat.pow_succ', Nat.mod_mul]
    rcases Nat.mod_two_eq_zero_or_one n with even | odd
    · simp [even]
    · simp [odd]

theorem toNat_append (a b : List Bool) : toNat (a ++ b) = toNat a + 2 ^ a.length * toNat b := by
  induction a with
  | nil => simp [toNat]
  | cons bit rest ih =>
    rw [List.cons_append, toNat, toNat, ih, List.length_cons, Nat.pow_succ]
    ring

theorem toNat_lt (bits : List Bool) : toNat bits < 2 ^ bits.length := by
  induction bits with
  | nil => simp [toNat]
  | cons bit rest ih =>
    have : bit.toNat ≤ 1 := Bool.toNat_le bit
    rw [toNat, List.length_cons, Nat.pow_succ]
    omega

theorem toNat_take (bits : List Bool) (count : Nat) :
    toNat (bits.take count) = toNat bits % 2 ^ count := by
  rcases Nat.lt_or_ge bits.length count with short | long
  · have bound := (toNat_lt bits).trans (Nat.pow_lt_pow_right (by decide) short)
    rw [List.take_of_length_le short.le, Nat.mod_eq_of_lt bound]
  · have split := toNat_append (bits.take count) (bits.drop count)
    have bound := toNat_lt (bits.take count)
    rw [List.length_take, Nat.min_eq_left long] at bound split
    rw [List.take_append_drop] at split
    rw [split, Nat.add_mul_mod_self_left, Nat.mod_eq_of_lt bound]

theorem toNat_drop (bits : List Bool) (count : Nat) :
    toNat (bits.drop count) = toNat bits / 2 ^ count := by
  rcases Nat.lt_or_ge bits.length count with short | long
  · have bound := (toNat_lt bits).trans (Nat.pow_lt_pow_right (by decide) short)
    rw [List.drop_of_length_le short.le, Nat.div_eq_of_lt bound]
    rfl
  · have split := toNat_append (bits.take count) (bits.drop count)
    have bound := toNat_lt (bits.take count)
    rw [List.length_take, Nat.min_eq_left long] at bound split
    rw [List.take_append_drop] at split
    rw [split, Nat.add_mul_div_left _ _ (Nat.two_pow_pos count), Nat.div_eq_of_lt bound, Nat.zero_add]

theorem testBit_toNat (bits : List Bool) (index : Nat) :
    (toNat bits).testBit index = bits.getD index false := by
  induction bits generalizing index with
  | nil => simp [toNat]
  | cons bit rest ih =>
    have parts : toNat (bit :: rest) = Nat.bit bit (toNat rest) := by
      cases bit <;> simp [toNat, Nat.bit, Nat.add_comm]
    rw [parts]
    cases index with
    | zero => rw [Nat.testBit_bit_zero, List.getD_cons_zero]
    | succ index => rw [Nat.testBit_bit_succ, ih, List.getD_cons_succ]

theorem ofNat_toNat {bits : List Bool} {count : Nat} (length : bits.length = count) :
    ofNat count (toNat bits) = bits := by
  induction bits generalizing count with
  | nil =>
    subst length
    rfl
  | cons bit rest ih =>
    subst length
    have half : (bit.toNat + 2 * toNat rest) / 2 = toNat rest := by
      have := Bool.toNat_le bit
      omega
    rw [List.length_cons, ofNat, testBit_toNat, List.getD_cons_zero, toNat, half, ih rfl]

theorem toNat_ne_zero_iff {bits : List Bool} : toNat bits ≠ 0 ↔
    ∃ zeros tail, bits = List.replicate zeros false ++ true :: tail := by
  induction bits with
  | nil => simp [toNat]
  | cons bit rest ih =>
    cases bit with
    | true => exact iff_of_true (by simp [toNat]) ⟨0, rest, rfl⟩
    | false =>
      have double : toNat (false :: rest) ≠ 0 ↔ toNat rest ≠ 0 := by simp [toNat]
      rw [double, ih]
      constructor
      · rintro ⟨zeros, tail, rfl⟩
        exact ⟨zeros + 1, tail, rfl⟩
      · rintro ⟨zeros, tail, split⟩
        cases zeros with
        | zero => cases split
        | succ zeros => exact ⟨zeros, tail, (List.cons.inj split).2⟩

/-- The bits of words, in the order in which they are written. -/
def ofWords (words : List UInt32) : List Bool := words.flatMap fun word => ofNat 32 word.toNat

@[simp] theorem length_ofWords (words : List UInt32) : (ofWords words).length = 32 * words.length := by
  induction words with
  | nil => rfl
  | cons word rest ih =>
    rw [ofWords, List.flatMap_cons, List.length_append, length_ofNat, ← ofWords, ih,
      List.length_cons]
    ring

theorem ofWords_append (a b : List UInt32) : ofWords (a ++ b) = ofWords a ++ ofWords b :=
  List.flatMap_append

theorem ofWords_cons (word : UInt32) (rest : List UInt32) :
    ofWords (word :: rest) = ofNat 32 word.toNat ++ ofWords rest := rfl

@[simp] theorem ofWords_nil : ofWords [] = [] := rfl

theorem drop_ofWords (words : List UInt32) (index : Nat) :
    (ofWords words).drop (32 * index) = ofWords (words.drop index) := by
  induction words generalizing index with
  | nil => simp [ofWords]
  | cons word rest ih =>
    cases index with
    | zero => rfl
    | succ index =>
      have position : 32 * (index + 1) = (ofNat 32 word.toNat).length + 32 * index := by
        rw [length_ofNat]
        omega
      rw [ofWords_cons, position, List.drop_length_add_append, ih, List.drop_succ_cons]

/-- Two words hold every bit that a reader can look at from within the first. -/
theorem toNat_ofWords_mod (words : List UInt32) :
    toNat (ofWords words) % 2 ^ 64 = (words.getD 0 0).toNat + (words.getD 1 0).toNat <<< 32 := by
  match words with
  | [] => rfl
  | [low] =>
    have small := low.toNat_lt
    rw [ofWords_cons, ofWords_nil, List.append_nil, toNat_ofNat, Nat.mod_eq_of_lt small]
    exact (Nat.mod_eq_of_lt (by omega)).trans (by simp)
  | low :: high :: rest =>
    have smallLow := low.toNat_lt
    have smallHigh := high.toNat_lt
    rw [ofWords_cons, ofWords_cons, toNat_append, toNat_append, toNat_ofNat, toNat_ofNat, length_ofNat,
      length_ofNat, Nat.mod_eq_of_lt smallLow, Nat.mod_eq_of_lt smallHigh, Nat.shiftLeft_eq]
    simp only [List.getD_cons_zero, List.getD_cons_succ]
    omega

theorem mod_div_mod {n shift count width : Nat} (within : shift + count ≤ width) :
    n % 2 ^ width / 2 ^ shift % 2 ^ count = n / 2 ^ shift % 2 ^ count := by
  apply Nat.eq_of_testBit_eq
  intro index
  simp only [Nat.testBit_mod_two_pow, Nat.testBit_div_two_pow]
  by_cases small : index < count
  · simp [small, (by omega : index + shift < width)]
  · simp [small]

end Bits

namespace BitWriter

def bits (w : BitWriter) : List Bool := Bits.ofWords w.words.toList ++ Bits.ofNat w.pending w.buffer

/-- Less than a word is pending and nothing lies above it. -/
structure Sound (w : BitWriter) : Prop where
  pending_lt : w.pending < 32
  buffer_lt : w.buffer < 2 ^ w.pending

/-- One writer after another with these bits appended. -/
structure Appends (w : BitWriter) (bits : List Bool) (after : BitWriter) : Prop where
  sound : after.Sound
  bits : after.bits = w.bits ++ bits

variable {w next after : BitWriter} {a b : List Bool}

theorem Appends.trans (first : w.Appends a next) (second : next.Appends b after) :
    w.Appends (a ++ b) after :=
  ⟨second.sound, by rw [second.bits, first.bits, List.append_assoc]⟩

theorem Appends.refl (sound : w.Sound) : w.Appends [] w := ⟨sound, (List.append_nil _).symm⟩

theorem empty_sound : empty.Sound := ⟨by decide, by decide⟩

theorem flush_bits {words : Array UInt32} {buffer pending : Nat} (short : pending < 64)
    (small : buffer < 2 ^ pending) :
    (flush ⟨words, buffer, pending⟩).Sound ∧
      (flush ⟨words, buffer, pending⟩).bits = bits ⟨words, buffer, pending⟩ := by
  rw [flush]
  split
  · rename_i full
    have power : 2 ^ pending = 2 ^ 32 * 2 ^ (pending - 32) := by
      rw [← Nat.pow_add, Nat.add_sub_cancel' full]
    refine ⟨⟨?_, ?_⟩, ?_⟩
    · exact Nat.sub_lt_left_of_lt_add full short
    · simp only [Nat.shiftRight_eq_div_pow]
      exact Nat.div_lt_of_lt_mul (power ▸ small)
    · have split := Bits.ofNat_add 32 (pending - 32) buffer
      rw [Nat.add_sub_cancel' full] at split
      simp only [bits, Array.toList_push, Bits.ofWords_append, split, Bits.ofWords_cons,
        UInt32.toNat_ofNat', Bits.ofNat_mod _ (le_refl 32), Nat.shiftRight_eq_div_pow, List.append_assoc]
      rfl
  · rename_i few
    exact ⟨⟨Nat.lt_of_not_le few, small⟩, rfl⟩

theorem write_appends (sound : w.Sound) {value count : Nat} (within : count ≤ 32)
    (small : value < 2 ^ count) : w.Appends (Bits.ofNat count value) (w.write value count) := by
  obtain ⟨words, buffer, pending⟩ := w
  obtain ⟨pending_lt, buffer_lt⟩ := sound
  dsimp only at pending_lt buffer_lt
  have joined : buffer ||| value <<< pending = 2 ^ pending * value + buffer := by
    rw [Nat.or_comm, Nat.shiftLeft_eq, Nat.mul_comm, ← Nat.two_pow_add_eq_or_of_lt buffer_lt]
  have bound : 2 ^ pending * value + buffer < 2 ^ (pending + count) := by
    calc 2 ^ pending * value + buffer < 2 ^ pending * value + 2 ^ pending := by omega
      _ = 2 ^ pending * (value + 1) := by ring
      _ ≤ 2 ^ pending * 2 ^ count := Nat.mul_le_mul_left _ small
      _ = 2 ^ (pending + count) := (Nat.pow_add ..).symm
  have low : Bits.ofNat pending (2 ^ pending * value + buffer) = Bits.ofNat pending buffer := by
    rw [← Bits.ofNat_mod _ (le_refl pending), Nat.mul_add_mod, Nat.mod_eq_of_lt buffer_lt]
  have high : (2 ^ pending * value + buffer) / 2 ^ pending = value := by
    rw [Nat.mul_add_div (Nat.two_pow_pos _), Nat.div_eq_of_lt buffer_lt, Nat.add_zero]
  rw [write, joined]
  obtain ⟨soundAfter, same⟩ := @flush_bits words _ (pending + count) (by omega) bound
  refine ⟨soundAfter, ?_⟩
  rw [same, bits, bits, Bits.ofNat_add, low, high, List.append_assoc]

theorem pad_appends (sound : w.Sound) {count : Nat} (within : count ≤ 32) :
    w.Appends (List.replicate count false) (w.pad count) := by
  rw [← Bits.ofNat_zero]
  exact write_appends sound within (Nat.two_pow_pos count)

theorem padSixteens_appends (sound : w.Sound) (times : Nat) :
    w.Appends (List.replicate (16 * times) false) (padSixteens times w) := by
  induction times generalizing w with
  | zero => exact Appends.refl sound
  | succ times ih =>
    have first := pad_appends sound (by decide : 16 ≤ 32)
    have rest := ih first.sound
    rw [padSixteens, Nat.mul_succ, Nat.add_comm, ← List.replicate_append_replicate]
    exact first.trans rest

/-- A number in unary: so many zeros, and a one. -/
theorem writeUnary_appends (sound : w.Sound) (value : Nat) :
    w.Appends (List.replicate value false ++ [true]) (w.writeUnary value) := by
  have sixteens := padSixteens_appends sound (value / 16)
  have small : value % 16 < 16 := Nat.mod_lt _ (by decide)
  have last := @write_appends _ sixteens.sound (1 <<< (value % 16)) (value % 16 + 1) (by omega)
    (by rw [Nat.one_shiftLeft]; exact Nat.pow_lt_pow_right (by decide) (Nat.lt_succ_self _))
  have unary : Bits.ofNat (value % 16 + 1) (1 <<< (value % 16)) =
      List.replicate (value % 16) false ++ [true] := by
    rw [Bits.ofNat_add, Nat.one_shiftLeft, ← Bits.ofNat_mod _ (le_refl (value % 16)), Nat.mod_self,
      Bits.ofNat_zero, Nat.div_self (Nat.two_pow_pos _)]
    rfl
  have whole : List.replicate value false = List.replicate (16 * (value / 16)) false ++
      List.replicate (value % 16) false := by
    rw [List.replicate_append_replicate, Nat.div_add_mod]
  rw [whole, List.append_assoc, ← unary]
  exact sixteens.trans last

theorem finish_bits (sound : w.Sound) :
    ∃ fill < 32, Bits.ofWords w.finish.toList = w.bits ++ List.replicate fill false := by
  obtain ⟨words, buffer, pending⟩ := w
  obtain ⟨pending_lt, buffer_lt⟩ := sound
  dsimp only at pending_lt buffer_lt
  rw [finish]
  split
  · rename_i some
    refine ⟨32 - pending, by omega, ?_⟩
    have split := Bits.ofNat_add pending (32 - pending) buffer
    rw [Nat.add_sub_cancel' pending_lt.le, Nat.div_eq_of_lt buffer_lt, Bits.ofNat_zero] at split
    simp only [bits, Array.toList_push, Bits.ofWords_append, Bits.ofWords_cons, UInt32.toNat_ofNat',
      Bits.ofNat_mod _ (le_refl 32), split, List.append_assoc, Bits.ofWords_nil, List.append_nil]
  · rename_i none
    obtain rfl : pending = 0 := by omega
    exact ⟨0, by decide, by simp [bits, Bits.ofNat]⟩

end BitWriter

namespace BitReader

def rest (r : BitReader) : List Bool := (Bits.ofWords r.words.toList).drop r.position

variable {r : BitReader} {count : Nat} {tail : List Bool}

@[simp] theorem rest_skip (r : BitReader) (count : Nat) : (r.skip count).rest = r.rest.drop count := by
  rw [rest, rest, skip, List.drop_drop]

/-- Looking ahead gives the number of the next bits, where there are so many. -/
theorem peek_eq (within : count ≤ 32) (enough : count ≤ r.rest.length) :
    r.peek count = .ok (Bits.toNat (r.rest.take count)) := by
  rw [peek]
  split
  · rename_i none
    rw [none]
    rfl
  · rename_i some
    rw [rest, List.length_drop, Bits.length_ofWords, Array.length_toList] at enough
    rw [if_neg (by omega)]
    have position : r.position = 32 * (r.position / 32) + r.position % 32 :=
      (Nat.div_add_mod r.position 32).symm
    have words : r.rest = (Bits.ofWords (r.words.toList.drop (r.position / 32))).drop (r.position % 32) := by
      rw [← Bits.drop_ofWords, List.drop_drop, ← position]
      rfl
    have ahead : r.position % 32 + count ≤ 64 := by
      have := Nat.mod_lt r.position (by decide : 0 < 32)
      omega
    rw [words, Bits.toNat_take, Bits.toNat_drop, ← Bits.mod_div_mod ahead, Bits.toNat_ofWords_mod]
    simp [Nat.shiftRight_eq_div_pow, Array.getD_eq_getD_getElem?, List.getD_eq_getElem?_getD,
      List.getElem?_drop]

theorem read_eq {value : Nat} (within : count ≤ 32) (small : value < 2 ^ count)
    (bits : r.rest = Bits.ofNat count value ++ tail) :
    r.read count = .ok (value, r.skip count) ∧ (r.skip count).rest = tail := by
  have length : (Bits.ofNat count value).length = count := Bits.length_ofNat count value
  have taken : r.rest.take count = Bits.ofNat count value := by rw [bits, List.take_left' length]
  refine ⟨?_, by rw [rest_skip, bits, List.drop_left' length]⟩
  rw [read, peek_eq within (by rw [bits, List.length_append, length]; omega), taken,
    Bits.toNat_ofNat, Nat.mod_eq_of_lt small]

theorem skip_skip (r : BitReader) (a b : Nat) : (r.skip a).skip b = r.skip (a + b) := by
  simp only [skip, Nat.add_assoc]

theorem firstOne_eq {byte zeros : Nat} (few : zeros < 8) (set : byte.testBit zeros = true)
    (clear : ∀ index < zeros, byte.testBit index = false) : firstOne byte = zeros := by
  have found : (List.range 8).find? byte.testBit = some zeros := by
    rw [List.find?_range_eq_some]
    refine ⟨set, List.mem_range.mpr few, fun index before => ?_⟩
    rw [clear index before]
    rfl
  rw [firstOne, found, Option.getD_some]

theorem firstOne_toNat {zeros : Nat} (few : zeros < 8) (tail : List Bool) :
    firstOne (Bits.toNat (List.replicate zeros false ++ true :: tail)) = zeros := by
  apply firstOne_eq few
  · rw [Bits.testBit_toNat]
    simp
  · intro index before
    rw [Bits.testBit_toNat, List.getD_eq_getElem?_getD,
      List.getElem?_append_left (by simpa using before)]
    simp [before]

/-- Zeros are counted a byte at a time, so seven bits have to follow the one. -/
theorem countZeros_eq {rounds start zeros : Nat} (enough : zeros / 8 < rounds)
    (ahead : 7 ≤ tail.length) (bits : r.rest = List.replicate zeros false ++ true :: tail) :
    countZeros rounds start r = .ok (start + zeros, r.skip (zeros + 1)) := by
  induction rounds generalizing r start zeros with
  | zero => omega
  | succ rounds ih =>
    have length : 8 ≤ r.rest.length := by
      rw [bits, List.length_append, List.length_cons]
      omega
    rw [countZeros, peek_eq (by decide) length]
    dsimp only
    by_cases few : zeros < 8
    · have byte : r.rest.take 8 = List.replicate zeros false ++ true :: tail.take (7 - zeros) := by
        rw [bits, List.take_append, List.length_replicate, List.take_of_length_le (by simp; omega),
          (by omega : 8 - zeros = 7 - zeros + 1), List.take_succ_cons]
      rw [byte, if_neg (Bits.toNat_ne_zero_iff.mpr ⟨zeros, _, rfl⟩), firstOne_toNat few]
    · obtain ⟨more, rfl⟩ : ∃ more, zeros = 8 + more := ⟨zeros - 8, by omega⟩
      rw [← List.replicate_append_replicate, List.append_assoc] at bits
      have first : r.rest.take 8 = List.replicate 8 false := by
        rw [bits, List.take_left' (List.length_replicate ..)]
      have later : (r.skip 8).rest = List.replicate more false ++ true :: tail := by
        rw [rest_skip, bits, List.drop_left' (List.length_replicate ..)]
      rw [first, if_pos (by decide), ih (by omega) later, skip_skip, Nat.add_assoc, Nat.add_assoc]

theorem readUnary_eq {value limit : Nat} (within : value ≤ limit) (ahead : 7 ≤ tail.length)
    (bits : r.rest = List.replicate value false ++ true :: tail) :
    r.readUnary limit = .ok (value, r.skip (value + 1)) ∧ (r.skip (value + 1)).rest = tail := by
  have rounds : value / 8 < limit / 8 + 1 := Nat.lt_succ_of_le (Nat.div_le_div_right within)
  refine ⟨?_, ?_⟩
  · rw [readUnary, countZeros_eq rounds ahead bits]
    dsimp only
    rw [Nat.zero_add, if_neg (by omega)]
  · rw [rest_skip, bits, List.append_cons, List.drop_left' (by simp)]

end BitReader

end DistinctCount
