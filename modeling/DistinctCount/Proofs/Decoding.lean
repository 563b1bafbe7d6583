import DistinctCount.Proofs.CouponSet
import DistinctCount.Proofs.HeadCodec
import DistinctCount.Proofs.ImagePairs

/-! What is read of an image. The words behind a head are read back as they were
written, and a counter that an image was accepted for satisfies the invariant of a
counter. -/
namespace DistinctCount

namespace Image

/-! ### Sections -/

theorem readWordsInto_append (words : List UInt32) (rest : List UInt8) (read : Array UInt32) :
    readWordsInto words.length (words.flatMap LittleEndian.word32 ++ rest) read =
      (read ++ words.toArray, rest) := by
  induction words generalizing read with
  | nil => simp [readWordsInto]
  | cons word words ih =>
    have length : (LittleEndian.word32 word).length = 4 := LittleEndian.length_ofNat 4 _
    have value : UInt32.ofNat (LittleEndian.toNat (LittleEndian.word32 word)) = word := by
      have small : word.toNat < 256 ^ 4 := word.toNat_lt
      rw [LittleEndian.word32, LittleEndian.toNat_ofNat, Nat.mod_eq_of_lt small]
      exact UInt32.ofNat_toNat
    rw [List.flatMap_cons, List.append_assoc, List.length_cons, readWordsInto,
      List.take_left' length, List.drop_left' length, value, ih]
    simp

theorem length_wordsBytes (words : Array UInt32) :
    (Sketch.wordsBytes words).length = 4 * words.size := by
  simp [Sketch.wordsBytes, LittleEndian.word32, Nat.mul_comm]

theorem readWords_append (words : Array UInt32) (part : ImagePart) (rest : List UInt8) :
    readWords words.size part (Sketch.wordsBytes words ++ rest) = .ok (words, rest) := by
  have enough : ¬ (Sketch.wordsBytes words ++ rest).length < 4 * words.size := by
    rw [List.length_append, length_wordsBytes]
    omega
  have read := readWordsInto_append words.toList rest #[]
  rw [Array.length_toList] at read
  rw [readWords, if_neg enough, Sketch.wordsBytes, read]
  simp

theorem sections_append {p : Preamble} {window table : Array UInt32} {seed : UInt64}
    (writable : p.Writable) (hash : Hash.seedHash seed = p.seedHash)
    (windowSize : window.size = p.windowWords.toNat) (tableSize : table.size = p.tableWords.toNat) :
    sections seed (p.toBytes ++ Sketch.wordsBytes window ++ Sketch.wordsBytes table) =
      .ok ⟨p, window, table⟩ := by
  have last := readWords_append table .tableData []
  rw [List.append_nil] at last
  rw [sections, List.append_assoc, Preamble.read_toBytes writable]
  simp only [hash, ne_eq, not_true_eq_false, if_false, ← windowSize, ← tableSize, readWords_append, last]
  rfl

theorem sections_steps {seed : UInt64} {bytes : List UInt8} {image : Sections}
    (read : sections seed bytes = .ok image) :
    ∃ afterHead afterWindow, Preamble.read bytes = .ok (image.preamble, afterHead) ∧
      Hash.seedHash seed = image.preamble.seedHash ∧
      readWords image.preamble.windowWords.toNat .windowData afterHead =
        .ok (image.window, afterWindow) ∧
      readWords image.preamble.tableWords.toNat .tableData afterWindow = .ok (image.table, []) := by
  rw [sections] at read
  split at read
  · contradiction
  · rename_i head
    simp only at read
    split at read
    · contradiction
    · rename_i same
      split at read
      · contradiction
      · rename_i window
        split at read
        · contradiction
        · rename_i table
          split at read
          · rename_i last
            cases read
            cases List.isEmpty_iff.mp last
            exact ⟨_, _, head, not_not.mp same, window, table⟩
          · contradiction

theorem sections_read {seed : UInt64} {bytes : List UInt8} {image : Sections}
    (read : sections seed bytes = .ok image) :
    ∃ rest, Preamble.read bytes = .ok (image.preamble, rest) := by
  obtain ⟨afterHead, _, head, _⟩ := sections_steps read
  exact ⟨afterHead, head⟩

theorem sections_sound {seed : UInt64} {bytes : List UInt8} {image : Sections}
    (read : sections seed bytes = .ok image) : image.preamble.Writable := by
  obtain ⟨_, head⟩ := sections_read read
  exact Preamble.read_sound head

/-- The pairs of an image are distinct cells, as many as its head says and no more than its
coupons. -/
theorem decoded_pairs {seed : UInt64} {bytes : List UInt8} {image : Sections} {pairs : List Pair}
    (read : sections seed bytes = .ok image)
    (decoded : PairStream.decode image.preamble.precision image.table
      image.preamble.tableEntries.toNat = .ok pairs) :
    pairs.length = image.preamble.tableEntries.toNat ∧ pairs.Nodup ∧
      (∀ pair ∈ pairs, pair.InRange image.preamble.precision) ∧
      pairs.length ≤ image.preamble.coupons.toNat := by
  obtain ⟨length, ascending, inside⟩ := PairStream.decode_sound decoded
  have entries : image.preamble.tableEntries.toNat ≤ image.preamble.coupons.toNat :=
    (sections_sound read).entries_le
  exact ⟨length, ascending.imp UInt32.ne_of_lt, inside, length.trans_le entries⟩

/-! ### Filling -/

open ColumnOrder (Outside)

variable {s after : Sketch} {pairs : List Pair}

theorem fillTable_spec (distinct : pairs.Nodup) (inside : ∀ pair ∈ pairs, pair.InRange s.precision)
    (run : fillTable s pairs = .ok after) : ∃ table, after = { s with table := table } ∧
      table.WellFormed ∧ table.validBits = s.precision.pairBits ∧ table.items.Perm pairs ∧
      table.lgSize ≤ 26 := by
  rw [fillTable] at run
  split at run
  · contradiction
  · rename_i table made
    cases run
    exact ⟨table, rfl, PairTable.ofItems_spec distinct (fun pair member => (inside pair member).2)
      (fun pair member => Pair.row_lt_rows_iff.mp (inside pair member).1) made⟩

/-- A counter that was filled with decoded data: it is laid out as its number of coupons
asks for, and only table and window have changed. -/
structure Filled (s : Sketch) (entries : Nat) (after : Sketch) : Prop where
  unchanged : ∃ table window offset,
    after = { s with table := table, window := window, offset := offset }
  layout : after.Layout
  offset_eq : after.offset = windowOffset s.precision s.numCoupons
  offset_le : after.offset ≤ 56
  windowed : after.flavor.windowed = !after.window.isEmpty
  few : after.table.numItems ≤ entries
  small : after.table.numItems ≤ 3 * 2 ^ 24

theorem filled_of_table {window : Array UInt8} {offset entries : Nat} (distinct : pairs.Nodup)
    (inside : ∀ pair ∈ pairs, pair.InRange s.precision) (few : pairs.length ≤ entries)
    (offset_eq : offset = windowOffset s.precision s.numCoupons) (within : offset ≤ 56)
    (size : window = #[] ∧ offset = 0 ∨ window.size = s.precision.rows)
    (none : window = #[] ↔ 32 * s.numCoupons < 3 * s.precision.rows)
    (outside : window ≠ #[] → ∀ pair ∈ pairs, Outside offset pair.column)
    (run : fillTable { s with window := window, offset := offset } pairs = .ok after) :
    Filled s entries after := by
  obtain ⟨table, rfl, wellFormed, width, perm, lgSize⟩ :=
    @fillTable_spec { s with window := window, offset := offset } after pairs distinct inside run
  have count : table.numItems = pairs.length := wellFormed.numItems.trans perm.length_eq
  refine ⟨⟨table, window, offset, rfl⟩, ?_, offset_eq, within, Sketch.windowed_eq_iff.mpr none, ?_, ?_⟩
  · refine ⟨wellFormed, width, within.trans_lt (by decide), size, fun allocated pair member => ?_⟩
    exact outside allocated pair (perm.mem_iff.mp member)
  · exact count.trans_le few
  · have load := wellFormed.load
    have bound : 2 ^ table.lgSize ≤ 2 ^ 26 := Nat.pow_le_pow_right (by decide) lgSize
    simp only
    omega

theorem fillHybrid_filled (fresh : s.offset = 0) (some_rows : 3 * s.precision.rows ≤ 32 * s.numCoupons)
    (few : 8 * s.numCoupons < 27 * s.precision.rows) (distinct : pairs.Nodup)
    (inside : ∀ pair ∈ pairs, pair.InRange s.precision) (run : fillHybrid s pairs = .ok after) :
    Filled s pairs.length after := by
  obtain ⟨marked, mark, size, _⟩ := Sketch.markEarly_spec fun pair member => (inside pair member).1
  have allocated := Sketch.window_ne_empty size
  simp only [fillHybrid, mark] at run
  refine filled_of_table (distinct.filter _) (fun pair member => inside pair (List.mem_filter.mp member).1)
    (List.length_filter_le _ _) ((windowOffset_eq_zero few).symm ▸ fresh) (by omega) (Or.inr size)
    (iff_of_false allocated (by omega)) ?_ run
  intro _ pair member
  have late := (List.mem_filter.mp member).2
  simp only [Bool.not_eq_true', decide_eq_false_iff_not] at late
  exact Or.inr (by omega)

/-- The surprises of an image are as many as the pairs it is written with, distinct, inside
the matrix and outside the window. -/
theorem decodeSurprises_spec {p : Precision} {coupons : Nat} {surprises : List Pair}
    (half : p.rows ≤ 2 * coupons) (within : windowOffset p coupons ≤ 56) (distinct : pairs.Nodup)
    (inside : ∀ pair ∈ pairs, pair.InRange p)
    (read : decodeSurprises (Flavor.ofCount p coupons) (windowPhase p coupons)
      (windowOffset p coupons) pairs #[] = .ok surprises) :
    surprises.length = pairs.length ∧ surprises.Nodup ∧
      (∀ pair ∈ surprises, pair.InRange p) ∧
      ∀ pair ∈ surprises, Outside (windowOffset p coupons) pair.column := by
  have coded := coded_of_count half within
  obtain ⟨fresh, whole, codes, good⟩ := decodeSurprises_sound coded read
  obtain rfl : surprises = fresh := by simpa using whole
  refine ⟨by simp [← codes], List.Nodup.of_map _ (codes ▸ distinct), ?_,
    fun pair member => (good pair member).1⟩
  intro pair member
  obtain ⟨outside, real⟩ := good pair member
  obtain ⟨small, _⟩ := decodeColumn_columnCode coded pair.column_lt outside
  have row := (cell_surpriseCode (small.trans (by decide))).1
  exact ⟨row ▸ (inside _ (codes ▸ List.mem_map_of_mem member)).1, real⟩

theorem fillWindowed_filled {words : Array UInt32} (half : s.precision.rows ≤ 2 * s.numCoupons)
    (distinct : pairs.Nodup) (inside : ∀ pair ∈ pairs, pair.InRange s.precision)
    (run : fillWindowed s words pairs = .ok after) : Filled s pairs.length after := by
  rw [fillWindowed] at run
  obtain ⟨window, decoded, run⟩ := bind_eq_ok.mp run
  obtain ⟨_, bound, run⟩ := bind_eq_ok.mp run
  obtain ⟨surprises, read, run⟩ := bind_eq_ok.mp run
  have within : windowOffset s.precision s.numCoupons ≤ 56 :=
    of_decide_eq_true (ensure_eq_ok.mp (Failure.ofImage_eq_ok.mp bound))
  obtain ⟨length, fresh, good, outside⟩ :=
    decodeSurprises_spec half within distinct inside (Failure.ofImage_eq_ok.mp read)
  have size := WindowStream.decode_sound (Failure.ofImage_eq_ok.mp decoded)
  have allocated := Sketch.window_ne_empty size
  exact filled_of_table fresh good length.le rfl within (Or.inr size)
    (iff_of_false allocated (by omega)) (fun _ => outside) (Failure.ofFault_eq_ok.mp run)

end Image

namespace Sketch

variable {s after : Sketch} {pairs : List Pair} {words : Array UInt32} {seed : UInt64}

theorem fill_filled (none : s.window = #[]) (layout : s.Layout) (items : s.table.items = [])
    (distinct : pairs.Nodup) (inside : ∀ pair ∈ pairs, pair.InRange s.precision)
    (run : s.fill words pairs = .ok after) : Image.Filled s pairs.length after := by
  have fresh := layout.offset_sparse none
  have positive := s.precision.rows_pos
  have same : { s with window := #[], offset := 0 } = s := by
    cases s
    cases none
    cases fresh
    rfl
  rw [fill] at run
  rcases ofCount_cases s.precision s.numCoupons with ⟨empty, flavor⟩ | ⟨_, few, flavor⟩ |
    ⟨many, few, flavor⟩ | ⟨half, _, flavor⟩ | ⟨many, flavor⟩ <;>
    simp only [Sketch.flavor, flavor] at run
  · cases run
    have count : s.table.numItems = 0 := by rw [layout.table.numItems, items, List.length_nil]
    refine ⟨⟨s.table, #[], 0, same.symm⟩, layout, ?_, by omega, windowed_eq_iff.mpr ?_, by omega, by omega⟩
    · rw [fresh, windowOffset_eq_zero (by omega)]
    · exact iff_of_true none (by omega)
  · exact Image.filled_of_table distinct inside (le_refl _) (windowOffset_eq_zero (by omega)).symm
      (by omega) (Or.inl ⟨rfl, rfl⟩) (iff_of_true rfl few) (fun some => (some rfl).elim)
      (same.symm ▸ Failure.ofFault_eq_ok.mp run)
  · exact Image.fillHybrid_filled fresh many (by omega) distinct inside (Failure.ofFault_eq_ok.mp run)
  · exact Image.fillWindowed_filled half distinct inside run
  · exact Image.fillWindowed_filled (by omega) distinct inside run

/-- A counter whose window ends at column 63 at the latest, and which starts its history
with its first coupon. -/
structure Settled (s : Sketch) : Prop extends Valid s where
  offset_le : s.offset ≤ 56
  history : s.FreshHistory

theorem Valid.settled_of_dropped (valid : s.Valid) (dropped : s.Dropped)
    (within : s.offset ≤ lastWindowOffset) : s.Settled :=
  ⟨valid, within, dropped.freshHistory⟩

theorem new_settled (p : Precision) (seed : UInt64) : (new p seed).Settled :=
  ⟨(new_valid p seed).1, Nat.zero_le _, fun _ => rfl⟩

theorem newMerged_settled (p : Precision) (seed : UInt64) : (newMerged p seed).Settled :=
  (newMerged_valid p seed).1.settled_of_dropped (dropHistory_dropped _) (Nat.zero_le _)

/-- The limits of an image: the history is finite, and the table has no more pairs than
there are coupons and than the largest table that is made at once can take. -/
structure Storable (s : Sketch) : Prop where
  finite : s.merged = false →
    s.hipState.kxp.isFinite = true ∧ s.hipState.accumulated.isFinite = true
  few : s.table.numItems ≤ min s.numCoupons (3 * 2 ^ 24)

theorem ofHead_layout (seed : UInt64) (preamble : Preamble) : (ofHead seed preamble).Layout :=
  (new_valid preamble.precision seed).1.toLayout.congr rfl rfl rfl rfl

theorem ofHead_hipState {preamble : Preamble} (placed : preamble.Placed) (seed : UInt64) :
    (ofHead seed preamble).hipState = preamble.hipState := by
  rw [ofHead]
  split
  · rename_i merged
    exact (placed.history (Or.inl merged)).symm
  · rfl

theorem ofImage_steps {bytes : List UInt8} (read : ofImage seed bytes = .ok s) :
    ∃ image pairs filled, Image.sections seed bytes = .ok image ∧
      PairStream.decode image.preamble.precision image.table image.preamble.tableEntries.toNat =
        .ok pairs ∧
      (ofHead seed image.preamble).fill image.window pairs = .ok filled ∧
      image.preamble.firstInteresting.toNat ≤ filled.offset ∧
      filled.tally = image.preamble.coupons.toNat ∧
      s = { filled with firstInteresting := image.preamble.firstInteresting.toNat } := by
  rw [ofImage] at read
  obtain ⟨image, sections, read⟩ := bind_eq_ok.mp read
  obtain ⟨pairs, decoded, read⟩ := bind_eq_ok.mp read
  obtain ⟨filled, run, read⟩ := bind_eq_ok.mp read
  obtain ⟨_, interesting, read⟩ := bind_eq_ok.mp read
  obtain ⟨_, tally, read⟩ := bind_eq_ok.mp read
  cases read
  exact ⟨image, pairs, filled, Failure.ofError_eq_ok.mp sections, Failure.ofImage_eq_ok.mp decoded, run,
    of_decide_eq_true (ensure_eq_ok.mp (Failure.ofImage_eq_ok.mp interesting)),
    eq_of_beq (ensure_eq_ok.mp (Failure.ofImage_eq_ok.mp tally)), rfl⟩

/-- An image is accepted only for a counter that is valid and has an image. -/
theorem ofImage_sound {bytes : List UInt8} (read : ofImage seed bytes = .ok s) :
    s.Settled ∧ s.Storable ∧ s.seed = seed := by
  obtain ⟨image, pairs, filled, sections, decoded, run, interesting, tally, rfl⟩ := ofImage_steps read
  have writable := Image.sections_sound sections
  obtain ⟨length, distinct, inside, entries⟩ := Image.decoded_pairs sections decoded
  obtain ⟨⟨table, window, offset, rfl⟩, layout, offset_eq, offset_le, windowed, few, small⟩ :=
    fill_filled rfl (ofHead_layout seed image.preamble) (PairTable.empty_spec _).2.2 distinct inside run
  have count := (layout.tallyable offset_le).tally_eq
  rw [tally] at count
  refine ⟨⟨⟨layout.congr rfl rfl rfl rfl, offset_eq, windowed, interesting, count.symm⟩, offset_le, ?_⟩,
    ⟨?_, le_min (few.trans entries) small⟩, rfl⟩
  · intro blank
    exact (ofHead_hipState writable.toPlaced seed).trans
      (writable.history (blank.imp_right UInt32.toNat_inj.mp))
  · intro own
    have finite := writable.finite
    have history := ofHead_hipState writable.toPlaced seed
    have same : image.preamble.merged = false := own
    rw [Preamble.hipFinite, same, Bool.false_or, Bool.and_eq_true, ← history] at finite
    exact finite

end Sketch
end DistinctCount
