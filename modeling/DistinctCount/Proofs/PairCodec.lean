import DistinctCount.Image.Pairs
import DistinctCount.Proofs.MatrixCells
import DistinctCount.Proofs.TakenBits

/-! The stream of ascending pairs. What is written for strictly ascending pairs is
read back as the same pairs, and whatever can be read at all is strictly ascending,
names cells of the counter and takes the bits that are written for it. -/
namespace DistinctCount.PairStream

variable {p : Precision} {base lastRow column : Nat} {pair : Pair} {pairs : List Pair}

/-- The pair comes after the pairs up to `column` of the row `lastRow`. -/
def Follows (lastRow column : Nat) (pair : Pair) : Prop :=
  lastRow ≤ pair.row ∧ leastColumn lastRow column pair.row ≤ pair.column

def Ascending : (lastRow column : Nat) → List Pair → Prop
  | _, _, [] => True
  | lastRow, column, pair :: rest =>
    Follows lastRow column pair ∧ Ascending pair.row (pair.column + 1) rest

theorem follows_iff_lt {before : Pair} : Follows before.row (before.column + 1) pair ↔ before < pair := by
  have values := before.toNat_eq
  have valuesPair := pair.toNat_eq
  have small := before.column_lt
  have smallPair := pair.column_lt
  rw [UInt32.lt_iff_toNat_lt, Follows, leastColumn]
  split <;> omega

theorem ascending_iff {before : Pair} :
    Ascending before.row (before.column + 1) pairs ↔ (before :: pairs).Pairwise (· < ·) := by
  induction pairs generalizing before with
  | nil => simp [Ascending]
  | cons pair rest ih =>
    rw [Ascending, follows_iff_lt, ih]
    constructor
    · rintro ⟨less, sorted⟩
      refine List.pairwise_cons.mpr ⟨?_, sorted⟩
      intro later member
      rcases List.mem_cons.mp member with rfl | member
      · exact less
      · exact UInt32.lt_trans less ((List.pairwise_cons.mp sorted).1 later member)
    · intro sorted
      obtain ⟨first, rest⟩ := List.pairwise_cons.mp sorted
      exact ⟨first pair List.mem_cons_self, rest⟩

/-- Strictly ascending pairs are those that follow one another from the first cell on. -/
theorem ascending_start : Ascending 0 0 pairs ↔ pairs.Pairwise (· < ·) := by
  cases pairs with
  | nil => simp [Ascending]
  | cons pair rest =>
    have first : Follows 0 0 pair := ⟨Nat.zero_le _, by simp [leastColumn]⟩
    rw [Ascending, ascending_iff]
    exact and_iff_right first

def pairCode (base lastRow column : Nat) (pair : Pair) : List Bool :=
  (columnDeltaCode.word (pair.column - leastColumn lastRow column pair.row)).toList ++
    ((List.replicate ((pair.row - lastRow) >>> base) false ++ [true]) ++
      Bits.ofNat base ((pair.row - lastRow) % 2 ^ base))

def pairsCode (base : Nat) : (lastRow column : Nat) → List Pair → List Bool
  | _, _, [] => []
  | lastRow, column, pair :: rest =>
    pairCode base lastRow column pair ++ pairsCode base pair.row (pair.column + 1) rest

theorem delta_lt (pair : Pair) (lastRow column : Nat) :
    pair.column - leastColumn lastRow column pair.row < 65 := by
  have := pair.column_lt
  omega

theorem writePair_appends {w : BitWriter} (sound : w.Sound) (within : base ≤ 32)
    (lastRow column : Nat) (pair : Pair) :
    w.Appends (pairCode base lastRow column pair) (writePair base lastRow column pair w) := by
  have word := PrefixCode.writeWord_appends columnDeltaCode_readable (delta_lt pair lastRow column) sound
  have unary := BitWriter.writeUnary_appends word.sound ((pair.row - lastRow) >>> base)
  have low := @BitWriter.write_appends _ unary.sound ((pair.row - lastRow) % 2 ^ base) base within
    (Nat.mod_lt _ (Nat.two_pow_pos base))
  exact word.trans (unary.trans low)

theorem writePairs_appends {w : BitWriter} (sound : w.Sound) (within : base ≤ 32)
    (lastRow column : Nat) (pairs : List Pair) :
    w.Appends (pairsCode base lastRow column pairs) (writePairs base lastRow column pairs w) := by
  induction pairs generalizing w lastRow column with
  | nil => exact BitWriter.Appends.refl sound
  | cons pair rest ih =>
    have first := writePair_appends sound within lastRow column pair
    exact first.trans (ih first.sound pair.row (pair.column + 1))

/-- One pair is read back, given the ten bits that a reader may look past it. -/
theorem readPair_eq {r : BitReader} {tail : List Bool} (within : base ≤ 32)
    (follows : Follows lastRow column pair) (inside : pair.InRange p)
    (bits : r.rest = pairCode base lastRow column pair ++ tail) (ahead : 10 ≤ base + tail.length) :
    ∃ after, readPair p base lastRow column r = .ok (pair, after) ∧ after.rest = tail := by
  obtain ⟨forward, least⟩ := follows
  have row : lastRow + ((pair.row - lastRow) >>> base * 2 ^ base + (pair.row - lastRow) % 2 ^ base) =
      pair.row := by
    rw [Nat.shiftRight_eq_div_pow, Nat.div_add_mod']
    omega
  have columns : leastColumn lastRow column pair.row +
      (pair.column - leastColumn lastRow column pair.row) = pair.column := by omega
  have small := pair.column_lt
  obtain ⟨⟨one, _⟩, _⟩ := columnDeltaCode_readable _ (delta_lt pair lastRow column)
  rw [pairCode, List.append_assoc, List.append_assoc, List.append_assoc] at bits
  have enough : 12 ≤ r.rest.length := by
    rw [bits, List.length_append, CodeWord.toList_eq, Bits.length_ofNat]
    simp only [List.length_append, List.length_replicate, List.length_singleton, Bits.length_ofNat]
    generalize (pair.row - lastRow) >>> base = zeros
    omega
  obtain ⟨symbol, restSymbol⟩ :=
    PrefixCode.readSymbol_eq columnDeltaCode_readable (delta_lt pair lastRow column) bits enough
  obtain ⟨unary, restUnary⟩ := @BitReader.readUnary_eq _ (Bits.ofNat base _ ++ tail)
    ((pair.row - lastRow) >>> base) (p.rows >>> base)
    (by
      rw [Nat.shiftRight_eq_div_pow, Nat.shiftRight_eq_div_pow]
      exact Nat.div_le_div_right (by have := inside.1; omega))
    (by simp only [List.length_append, Bits.length_ofNat]; omega) restSymbol
  obtain ⟨low, restLow⟩ := BitReader.read_eq within (Nat.mod_lt _ (Nat.two_pow_pos base)) restUnary
  refine ⟨_, ?_, restLow⟩
  simp only [readPair, symbol, unary, low, row, columns, Pair.pack_row_column]
  rw [if_neg (Nat.not_le.mpr inside.1), if_neg (by omega), if_neg inside.2]

theorem readPairs_eq {r : BitReader} {tail : List Bool} (within : base ≤ 32)
    (ascending : Ascending lastRow column pairs) (inside : ∀ pair ∈ pairs, pair.InRange p)
    (bits : r.rest = pairsCode base lastRow column pairs ++ tail) (ahead : 10 ≤ base + tail.length)
    (read : Array Pair) :
    ∃ after, readPairs p base pairs.length lastRow column r read = .ok (read ++ pairs.toArray, after) ∧
      after.rest = tail := by
  induction pairs generalizing lastRow column r read with
  | nil => exact ⟨r, by simp [readPairs], by simpa [pairsCode] using bits⟩
  | cons pair rest ih =>
    obtain ⟨follows, later⟩ := ascending
    rw [pairsCode, List.append_assoc] at bits
    obtain ⟨next, first, restBits⟩ := readPair_eq within follows (inside pair List.mem_cons_self) bits
      (by rw [List.length_append]; omega)
    obtain ⟨after, run, restAfter⟩ := ih later
      (fun other member => inside other (List.mem_cons_of_mem _ member)) restBits (read.push pair)
    refine ⟨after, ?_, restAfter⟩
    rw [List.length_cons, readPairs, first]
    dsimp only
    rw [run]
    simp

theorem baseBits_le (p : Precision) (count : Nat) : baseBits p count ≤ 26 := by
  have rows := (Nat.div_le_self p.rows count).trans p.rows_le
  rw [baseBits, ← Nat.lt_succ_iff]
  rcases Nat.eq_zero_or_pos (p.rows / count) with zero | some
  · rw [zero]
    decide
  · exact (Nat.log2_lt some.ne').mpr (by omega)

theorem encode_bits (some : pairs ≠ []) : ∃ fill < 32,
    Bits.ofWords (encode p pairs).toList = pairsCode (baseBits p pairs.length) 0 0 pairs ++
      (List.replicate (10 - baseBits p pairs.length) false ++ List.replicate fill false) := by
  have within := baseBits_le p pairs.length
  have written := writePairs_appends BitWriter.empty_sound
    (by omega : baseBits p pairs.length ≤ 32) 0 0 pairs
  have padded := written.trans
    (BitWriter.pad_appends written.sound (by omega : 10 - baseBits p pairs.length ≤ 32))
  obtain ⟨fill, small, bits⟩ := BitWriter.finish_bits padded.sound
  refine ⟨fill, small, ?_⟩
  have nonempty : pairs.isEmpty = false := by simpa using some
  simp only [encode, nonempty, Bool.false_eq_true, if_false]
  rw [bits, padded.bits]
  simp [BitWriter.bits, BitWriter.empty, Bits.ofNat]

/-- Words that start with the bits of strictly ascending coupons are read as these, given the
bits that a reader may look past them. -/
theorem decodeFrom_eq {words : Array UInt32} {tail : List Bool} (ascending : pairs.Pairwise (· < ·))
    (inside : ∀ pair ∈ pairs, pair.InRange p)
    (bits : Bits.ofWords words.toList = pairsCode (baseBits p pairs.length) 0 0 pairs ++ tail)
    (ahead : 10 ≤ baseBits p pairs.length + tail.length) :
    ∃ after, decodeFrom p words pairs.length = .ok (pairs.toArray, after) ∧ after.rest = tail := by
  have within := baseBits_le p pairs.length
  obtain ⟨after, run, left⟩ := readPairs_eq (r := .ofWords words) (by omega)
    (ascending_start.mpr ascending) inside bits ahead #[]
  exact ⟨after, by rw [decodeFrom, run, Array.empty_append], left⟩

/-- Strictly ascending coupons are read back from their words, of which only zeros are
left over. -/
theorem decodeFrom_encode (ascending : pairs.Pairwise (· < ·)) (inside : ∀ pair ∈ pairs, pair.InRange p) :
    ∃ after, decodeFrom p (encode p pairs) pairs.length = .ok (pairs.toArray, after) ∧
      ∃ left < 42, after.rest = List.replicate left false := by
  rcases eq_or_ne pairs [] with rfl | some
  · exact ⟨.ofWords #[], rfl, 0, by decide, rfl⟩
  · obtain ⟨fill, small, bits⟩ := @encode_bits p pairs some
    rw [List.replicate_append_replicate] at bits
    obtain ⟨after, run, left⟩ := decodeFrom_eq ascending inside bits
      (by rw [List.length_replicate]; omega)
    exact ⟨after, run, _, by omega, left⟩

theorem decode_encode (ascending : pairs.Pairwise (· < ·)) (inside : ∀ pair ∈ pairs, pair.InRange p) :
    decode p (encode p pairs) pairs.length = .ok pairs := by
  obtain ⟨after, run, _⟩ := decodeFrom_encode ascending inside
  rw [decode, run]

theorem pairCode_length_le (base lastRow column : Nat) (pair : Pair) :
    (pairCode base lastRow column pair).length ≤ 13 + base + (pair.row - lastRow) := by
  obtain ⟨⟨_, twelve, _⟩, _⟩ := columnDeltaCode_readable _ (delta_lt pair lastRow column)
  have quotient : (pair.row - lastRow) >>> base ≤ pair.row - lastRow := by
    rw [Nat.shiftRight_eq_div_pow]
    exact Nat.div_le_self _ _
  simp only [pairCode, CodeWord.toList_eq, List.length_append, Bits.length_ofNat, List.length_replicate,
    List.length_singleton]
  omega

theorem pairsCode_length_le (ascending : Ascending lastRow column pairs)
    (inside : ∀ pair ∈ pairs, pair.row < p.rows) (start : lastRow ≤ p.rows) :
    (pairsCode base lastRow column pairs).length + lastRow ≤ pairs.length * (13 + base) + p.rows := by
  induction pairs generalizing lastRow column with
  | nil => simpa [pairsCode] using start
  | cons pair rest ih =>
    obtain ⟨follows, later⟩ := ascending
    have row := inside pair List.mem_cons_self
    have first := pairCode_length_le base lastRow column pair
    have rest := ih later (fun other member => inside other (List.mem_cons_of_mem _ member)) row.le
    have forward := follows.1
    rw [pairsCode, List.length_append, List.length_cons, Nat.add_mul]
    omega

theorem encode_size (ascending : pairs.Pairwise (· < ·)) (inside : ∀ pair ∈ pairs, pair.row < p.rows)
    (few : pairs.length ≤ 2 ^ 30) :
    (encode p pairs).size < 2 ^ 32 ∧ (0 < (encode p pairs).size ↔ pairs ≠ []) := by
  rcases eq_or_ne pairs [] with rfl | some
  · simp [encode]
  · have within := baseBits_le p pairs.length
    obtain ⟨fill, small, bits⟩ := @encode_bits p pairs some
    have bound := @pairsCode_length_le p (baseBits p pairs.length) 0 0 pairs
      (ascending_start.mpr ascending) inside (Nat.zero_le _)
    have length := congrArg List.length bits
    rw [Bits.length_ofWords, Array.length_toList] at length
    simp only [List.length_append, List.length_replicate] at length
    have rows := p.rows_le
    have product : pairs.length * (13 + baseBits p pairs.length) ≤ 2 ^ 30 * 39 :=
      Nat.mul_le_mul few (by omega)
    refine ⟨by omega, iff_of_true ?_ some⟩
    obtain ⟨pair, rest, rfl⟩ := List.exists_cons_of_ne_nil some
    have code : 1 ≤ (pairsCode (baseBits p (pair :: rest).length) 0 0 (pair :: rest)).length := by
      simp only [pairsCode, pairCode, List.length_append, List.length_singleton]
      omega
    omega

/-- A pair that can be read follows the last one, is a coupon and has its code taken. -/
theorem readPair_sound {r after : BitReader} (within : base ≤ 32)
    (read : readPair p base lastRow column r = .ok (pair, after)) :
    Follows lastRow column pair ∧ pair.InRange p ∧ r.Takes (pairCode base lastRow column pair) after := by
  have rows := p.rows_le
  unfold readPair at read
  split at read
  · contradiction
  · rename_i delta next symbol
    split at read
    · contradiction
    · rename_i quotient afterUnary unary
      split at read
      · contradiction
      · rename_i low last lowRead
        dsimp only at read
        split_ifs at read with row narrow real
        cases read
        obtain ⟨_, word⟩ :=
          PrefixCode.readSymbol_takes columnDeltaCode_readable columnDeltaCode_complete symbol
        obtain ⟨_, zeros⟩ := BitReader.readUnary_takes unary
        obtain ⟨below, digits⟩ := BitReader.read_takes within lowRead
        have high : (quotient * 2 ^ base + low) >>> base = quotient := by
          rw [Nat.shiftRight_eq_div_pow, Nat.mul_comm, Nat.mul_add_div (Nat.two_pow_pos base),
            Nat.div_eq_of_lt below, Nat.add_zero]
        have rest : (quotient * 2 ^ base + low) % 2 ^ base = low := by
          rw [Nat.mul_comm, Nat.mul_add_mod, Nat.mod_eq_of_lt below]
        generalize quotient * 2 ^ base + low = rise at *
        have inside : lastRow + rise < 2 ^ 26 := by omega
        have small : leastColumn lastRow column (lastRow + rise) + delta < 64 := by omega
        refine ⟨⟨?_, ?_⟩, ⟨?_, real⟩, ?_⟩
        · rw [Pair.row_pack inside small]
          omega
        · rw [Pair.row_pack inside small, Pair.column_pack inside small]
          omega
        · rw [Pair.row_pack inside small]
          omega
        · rw [pairCode, Pair.row_pack inside small, Pair.column_pack inside small,
            Nat.add_sub_cancel_left, Nat.add_sub_cancel_left, high, rest]
          exact word.trans (zeros.trans digits)

theorem readPairs_sound {count : Nat} {r after : BitReader} {read pairs : Array Pair} (within : base ≤ 32)
    (run : readPairs p base count lastRow column r read = .ok (pairs, after)) :
    ∃ added, pairs = read ++ List.toArray added ∧ added.length = count ∧
      Ascending lastRow column added ∧ (∀ pair ∈ added, pair.InRange p) ∧
      r.Takes (pairsCode base lastRow column added) after := by
  induction count generalizing lastRow column r read with
  | zero =>
    cases run
    exact ⟨[], by simp, rfl, trivial, by simp, .refl after⟩
  | succ count ih =>
    rw [readPairs] at run
    split at run
    · contradiction
    · rename_i pair next first
      obtain ⟨follows, inside, code⟩ := readPair_sound within first
      obtain ⟨added, rfl, length, ascending, coupons, codes⟩ := ih run
      refine ⟨pair :: added, by simp, by simp [length], ⟨follows, ascending⟩, ?_, code.trans codes⟩
      exact List.forall_mem_cons.mpr ⟨inside, coupons⟩

/-- Whatever words are read, the pairs are as many as asked for, strictly ascending
and coupons of the counter, and the bits taken are those of their code. -/
theorem decodeFrom_sound {words : Array UInt32} {count : Nat} {found : Array Pair} {after : BitReader}
    (read : decodeFrom p words count = .ok (found, after)) :
    found.size = count ∧ found.toList.Pairwise (· < ·) ∧ (∀ pair ∈ found.toList, pair.InRange p) ∧
      BitReader.Takes (.ofWords words) (pairsCode (baseBits p count) 0 0 found.toList) after := by
  have within := baseBits_le p count
  obtain ⟨added, rfl, length, ascending, coupons, codes⟩ := readPairs_sound (by omega) read
  simpa using ⟨length, ascending_start.mp ascending, coupons, codes⟩

theorem decode_sound {words : Array UInt32} {count : Nat} (read : decode p words count = .ok pairs) :
    pairs.length = count ∧ pairs.Pairwise (· < ·) ∧ ∀ pair ∈ pairs, pair.InRange p := by
  unfold decode at read
  split at read
  · contradiction
  · rename_i found after run
    cases read
    obtain ⟨size, ascending, coupons, _⟩ := decodeFrom_sound run
    exact ⟨size, ascending, coupons⟩

end DistinctCount.PairStream
