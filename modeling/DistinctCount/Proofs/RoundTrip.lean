import DistinctCount.Proofs.Decoding
import DistinctCount.Proofs.Merging

/-! Writing a counter and reading it back. The reader works out from the number of
coupons alone where the window stood, how columns were coded and how much was written,
and it arrives at the counter that was written, for each of the five layouts. -/
namespace DistinctCount

open ColumnOrder (Outside)

namespace Sketch

variable {s : Sketch} {seed : UInt64} {pairs : List Pair} {words : Array UInt32}

/-- The counter that the reader starts to fill. -/
def blank (s : Sketch) (seed : UInt64) : Sketch :=
  { new s.precision seed with
    numCoupons := s.numCoupons, merged := s.merged, hipState := s.hipState }

/-- Filling a blank counter with these words and pairs gives the counter back, but for
the order of the slots in its table. -/
def Restores (s : Sketch) (seed : UInt64) (words : Array UInt32) (pairs : List Pair) : Prop :=
  ∃ table, (s.blank seed).fill words pairs =
      .ok { s.blank seed with table := table, window := s.window, offset := s.offset } ∧
    table.items.Perm s.table.items ∧ table.numItems = s.table.numItems

theorem fillTable_total (after : Sketch) (layout : s.Layout) (small : s.table.numItems ≤ 3 * 2 ^ 24)
    (precision : after.precision = s.precision) (perm : pairs.Perm s.table.items) :
    ∃ table, Image.fillTable after pairs = .ok { after with table := table } ∧
      table.items.Perm s.table.items ∧ table.numItems = s.table.numItems := by
  have wellFormed := layout.table
  have distinct : pairs.Nodup := perm.nodup_iff.mpr wellFormed.distinct
  have inside (pair : Pair) (member : pair ∈ pairs) : pair.InRange s.precision :=
    layout.inRange (perm.mem_iff.mp member)
  have real (pair : Pair) (member : pair ∈ pairs) := (inside pair member).2
  have narrow (pair : Pair) (member : pair ∈ pairs) : pair.toNat < 2 ^ s.precision.pairBits :=
    Pair.row_lt_rows_iff.mp (inside pair member).1
  have length : pairs.length = s.table.numItems := perm.length_eq.trans wellFormed.numItems.symm
  have bits : 3 ≤ s.precision.pairBits ∧ s.precision.pairBits ≤ 32 := by
    have := s.precision.le_twentySix
    rw [Precision.pairBits]
    omega
  have few : pairs.length ≤ PairTable.initialCapacity s.precision.pairBits := by
    have load := wellFormed.load
    have less := wellFormed.lgSize_lt
    have most := PairTable.four_mul_initialCapacity bits.1
    rw [layout.width] at less
    have grown : 2 ^ s.table.lgSize ≤ 2 ^ (s.precision.pairBits - 1) :=
      Nat.pow_le_pow_right (by decide) (by omega)
    rcases min_cases (s.precision.pairBits - 1) 26 with ⟨least, _⟩ | ⟨least, _⟩ <;>
      rw [least] at most <;> omega
  obtain ⟨table, made⟩ := PairTable.ofItems_total distinct real narrow bits.1 bits.2 few
  obtain ⟨wellFormedAfter, _, items, _⟩ := PairTable.ofItems_spec distinct real narrow made
  refine ⟨table, ?_, items.trans perm, ?_⟩
  · rw [Image.fillTable, precision, made]
  · rw [wellFormedAfter.numItems, items.length_eq, length]

/-! ### Layouts that are written as pairs only -/

theorem window_ext {a b : Array UInt8} (size : a.size = b.size)
    (bits : ∀ row bit, windowBit a row bit = windowBit b row bit) : a = b := by
  apply Array.ext size
  intro row insideA insideB
  apply UInt8.toNat.inj
  apply Nat.eq_of_testBit_eq
  intro bit
  simpa [windowBit, insideA, insideB] using bits row bit

theorem Settled.imagePairs_listed (settled : s.Settled) (few : 2 * s.numCoupons < s.precision.rows) :
    s.imagePairs = .ok (s.table.items ++ s.windowPairs) := by
  have start : s.offset = 0 := by rw [settled.offset_eq, windowOffset_eq_zero (by omega)]
  have length := settled.length_listed start
  rcases ofCount_cases s.precision s.numCoupons with ⟨empty, flavor⟩ | ⟨_, _, flavor⟩ |
    ⟨_, _, flavor⟩ | ⟨_, _, flavor⟩ | ⟨_, flavor⟩
  · rw [settled.count, empty, List.length_eq_zero_iff] at length
    simp only [imagePairs, Sketch.flavor, flavor, length]
  · simp only [imagePairs, Sketch.flavor, flavor]
  · simp only [imagePairs, Sketch.flavor, flavor]
  · omega
  · omega

theorem Layout.inRange_listed (layout : s.Layout) (pair : Pair)
    (listed : pair ∈ s.table.items ++ s.windowPairs) : pair.InRange s.precision := by
  rcases List.mem_append.mp listed with stored | inWindow
  · exact layout.inRange stored
  · rw [mem_windowPairs layout.size_window_le] at inWindow
    have near := windowBit_lt inWindow
    have row := windowBit_row_lt inWindow
    rcases layout.window with ⟨none, _⟩ | size
    · simp [none] at row
    · refine ⟨size ▸ row, ?_⟩
      rintro rfl
      rw [Pair.column_vacant] at near
      omega

/-- A window at column 0 is the one that its pairs mark. -/
theorem Layout.markAll_listed (layout : s.Layout) (allocated : s.window ≠ #[]) (start : s.offset = 0)
    (perm : pairs.Perm (s.table.items ++ s.windowPairs)) :
    markAll (pairs.filter fun pair => decide (pair.column < 8))
      (Array.replicate s.precision.rows 0) = .ok s.window := by
  have size := layout.size_window allocated
  have early (pair : Pair) : pair ∈ pairs ∧ pair.column < 8 ↔
      windowBit s.window pair.row pair.column = true := by
    rw [perm.mem_iff, List.mem_append, mem_windowPairs layout.size_window_le]
    constructor
    · rintro ⟨stored | set, near⟩
      · have := layout.outside allocated pair stored
        omega
      · exact set
    · intro set
      exact ⟨Or.inr set, windowBit_lt set⟩
  obtain ⟨marked, run, sizeMarked, bits⟩ := markEarly_spec fun pair member =>
    (layout.inRange_listed pair (perm.mem_iff.mp member)).1
  rw [run]
  congr 1
  apply window_ext (sizeMarked.trans size.symm)
  intro row bit
  by_cases cell : row < s.precision.rows ∧ bit < 64
  · obtain ⟨pair, rfl, rfl⟩ := Pair.exists_cell (cell.1.trans_le s.precision.rows_le) cell.2
    rw [Bool.eq_iff_iff, bits, early]
  · have clear {window : Array UInt8} (size : window.size = s.precision.rows) :
        windowBit window row bit = false := by
      rw [Bool.eq_false_iff]
      intro set
      exact cell ⟨size ▸ windowBit_row_lt set, (windowBit_lt set).trans (by decide)⟩
    rw [clear sizeMarked, clear size]

/-- The pairs behind a window at column 0 are those of the table. -/
theorem Layout.late_listed (layout : s.Layout) (allocated : s.window ≠ #[]) (start : s.offset = 0)
    (perm : pairs.Perm (s.table.items ++ s.windowPairs)) :
    (pairs.filter fun pair => !decide (pair.column < 8)).Perm s.table.items := by
  have stored : s.table.items.filter (fun pair => !decide (pair.column < 8)) = s.table.items := by
    rw [List.filter_eq_self]
    intro pair member
    have := layout.outside allocated pair member
    simp only [Bool.not_eq_true', decide_eq_false_iff_not]
    omega
  have inWindow : s.windowPairs.filter (fun pair => !decide (pair.column < 8)) = [] := by
    rw [List.filter_eq_nil_iff]
    intro pair member
    rw [mem_windowPairs layout.size_window_le] at member
    simpa using windowBit_lt member
  have filtered := perm.filter fun pair => !decide (pair.column < 8)
  rwa [List.filter_append, stored, inWindow, List.append_nil] at filtered

theorem Settled.restores_listed (settled : s.Settled) (small : s.table.numItems ≤ 3 * 2 ^ 24)
    (few : 2 * s.numCoupons < s.precision.rows) :
    s.Restores seed words (sortPairs (s.table.items ++ s.windowPairs)) := by
  have start : s.offset = 0 := by rw [settled.offset_eq, windowOffset_eq_zero (by omega)]
  have perm := sortPairs_perm (s.table.items ++ s.windowPairs)
  have window := windowed_eq_iff.mp settled.windowed
  have without (none : s.window = #[]) : s.windowPairs = [] := by simp [windowPairs, none, BitMatrix.pairs]
  rw [Restores, fill]
  rcases ofCount_cases s.precision s.numCoupons with ⟨empty, flavor⟩ | ⟨_, sparse, flavor⟩ |
    ⟨many, _, flavor⟩ | ⟨_, _, flavor⟩ | ⟨_, flavor⟩ <;>
    simp only [Sketch.flavor, blank, new, flavor]
  · have none : s.window = #[] := window.mpr (by omega)
    have items : s.table.items = [] := by
      have length := settled.length_listed start
      rw [settled.count, empty, List.length_eq_zero_iff] at length
      exact (List.append_eq_nil_iff.mp length).1
    have emptied := (PairTable.empty_spec s.precision).2.2
    refine ⟨PairTable.empty s.precision, by rw [none, start], by rw [emptied, items], ?_⟩
    rw [settled.table.numItems, items]
    rfl
  · have none : s.window = #[] := window.mpr sparse
    rw [without none, List.append_nil] at perm ⊢
    obtain ⟨table, run, items, count⟩ :=
      fillTable_total (s.blank seed) settled.toLayout small rfl perm
    refine ⟨table, ?_, items, count⟩
    rw [none, start]
    exact congrArg Failure.ofFault run
  · have allocated : s.window ≠ #[] := mt window.mp (by omega)
    have late := settled.late_listed allocated start perm
    obtain ⟨table, run, items, count⟩ :=
      fillTable_total { s.blank seed with window := s.window } settled.toLayout small rfl late
    refine ⟨table, ?_, items, count⟩
    rw [Image.fillHybrid, settled.markAll_listed allocated start perm, start]
    exact congrArg Failure.ofFault run
  · omega
  · omega

/-! ### Layouts that are written with their window -/

def codeOf (s : Sketch) : Pair → Pair :=
  Image.surpriseCode s.flavor (windowPhase s.precision s.numCoupons) s.offset

theorem Settled.coded (settled : s.Settled) (half : s.precision.rows ≤ 2 * s.numCoupons) :
    Image.Coded s.flavor (windowPhase s.precision s.numCoupons) s.offset := by
  have within := settled.offset_le
  rw [settled.offset_eq] at within ⊢
  exact Image.coded_of_count half within

theorem Valid.allocated (valid : s.Valid) (half : s.precision.rows ≤ 2 * s.numCoupons) :
    s.window ≠ #[] := by
  have positive := s.precision.rows_pos
  exact mt (windowed_eq_iff.mp valid.windowed).mp (by omega)

theorem Settled.imagePairs_windowed (settled : s.Settled)
    (half : s.precision.rows ≤ 2 * s.numCoupons) :
    s.imagePairs = .ok (s.table.items.map s.codeOf) := by
  have outside := settled.outside (settled.allocated half)
  have coded := settled.coded half
  rw [codeOf]
  rcases coded with ⟨pinned, _⟩ | ⟨sliding, phase, within⟩
  · simp only [imagePairs, pinned]
    rfl
  · simp only [imagePairs, sliding, rankColumns_eq]
    rw [if_pos]
    · rfl
    · rw [List.all_eq_true]
      intro pair member
      obtain ⟨rank, _, found, _⟩ :=
        ColumnOrder.exists_rank phase within pair.column_lt (outside pair member)
      simp [found]

theorem imageWindow_windowed (half : s.precision.rows ≤ 2 * s.numCoupons) :
    s.imageWindow = WindowStream.encode s.precision s.numCoupons s.window := by
  have positive := s.precision.rows_pos
  rcases ofCount_cases s.precision s.numCoupons with ⟨_, flavor⟩ | ⟨_, _, flavor⟩ |
    ⟨_, _, flavor⟩ | ⟨_, _, flavor⟩ | ⟨_, flavor⟩
  · omega
  · omega
  · omega
  · simp only [imageWindow, Sketch.flavor, flavor]
  · simp only [imageWindow, Sketch.flavor, flavor]

theorem imageWindow_listed (few : 2 * s.numCoupons < s.precision.rows) : s.imageWindow = #[] := by
  rcases ofCount_cases s.precision s.numCoupons with ⟨_, flavor⟩ | ⟨_, _, flavor⟩ |
    ⟨_, _, flavor⟩ | ⟨_, _, flavor⟩ | ⟨_, flavor⟩
  · simp only [imageWindow, Sketch.flavor, flavor]
  · simp only [imageWindow, Sketch.flavor, flavor]
  · simp only [imageWindow, Sketch.flavor, flavor]
  · omega
  · omega

theorem Settled.restores_windowed (settled : s.Settled) (small : s.table.numItems ≤ 3 * 2 ^ 24)
    (half : s.precision.rows ≤ 2 * s.numCoupons) :
    s.Restores seed (WindowStream.encode s.precision s.numCoupons s.window)
      (sortPairs (s.table.items.map s.codeOf)) := by
  have allocated := settled.allocated half
  have coded := settled.coded half
  have size := settled.size_window allocated
  obtain ⟨order, perm, sorted⟩ := sortPairs_map s.codeOf s.table.items
  have surprises : Image.decodeSurprises s.flavor (windowPhase s.precision s.numCoupons) s.offset
      (order.map s.codeOf) #[] = .ok order :=
    Image.decodeSurprises_map coded
      (fun pair member => settled.outside allocated pair (perm.mem_iff.mp member))
      (fun pair member => PairTable.real_of_mem (perm.mem_iff.mp member))
  obtain ⟨table, run, items, count⟩ :=
    fillTable_total { s.blank seed with window := s.window, offset := s.offset } settled.toLayout small
      rfl perm
  refine ⟨table, ?_, items, count⟩
  have windowed : (s.blank seed).fill (WindowStream.encode s.precision s.numCoupons s.window)
      (order.map s.codeOf) = Image.fillWindowed (s.blank seed)
        (WindowStream.encode s.precision s.numCoupons s.window) (order.map s.codeOf) := by
    have same : (s.blank seed).flavor = s.flavor := rfl
    rcases coded with ⟨flavor, _⟩ | ⟨flavor, _⟩ <;> rw [fill, same, flavor]
  have window : WindowStream.decode s.precision s.numCoupons
      (WindowStream.encode s.precision s.numCoupons s.window) = .ok s.window :=
    WindowStream.decode_encode size
  have offset : windowOffset (s.blank seed).precision (s.blank seed).numCoupons = s.offset :=
    settled.offset_eq.symm
  rw [sorted, windowed]
  simp only [Image.fillWindowed, offset]
  refine bind_eq_ok.mpr ⟨s.window, Failure.ofImage_eq_ok.mpr window, ?_⟩
  refine bind_eq_ok.mpr ⟨(), Failure.ofImage_eq_ok.mpr
    (ensure_eq_ok.mpr (decide_eq_true settled.offset_le)), ?_⟩
  exact bind_eq_ok.mpr ⟨order, Failure.ofImage_eq_ok.mpr surprises, Failure.ofFault_eq_ok.mpr run⟩

theorem Settled.codeOf_spec (settled : s.Settled) (half : s.precision.rows ≤ 2 * s.numCoupons)
    {pair : Pair} (stored : pair ∈ s.table.items) :
    (s.codeOf pair).InRange s.precision ∧ (s.codeOf pair).row = pair.row ∧
      Image.decodeColumn s.flavor (windowPhase s.precision s.numCoupons) s.offset
        (s.codeOf pair).column = .ok pair.column := by
  have outside := settled.outside (settled.allocated half) pair stored
  obtain ⟨bound, back⟩ :=
    Image.decodeColumn_columnCode (settled.coded half) pair.column_lt outside
  obtain ⟨row, column⟩ := Image.cell_surpriseCode (bound.trans (by decide))
  refine ⟨⟨row ▸ settled.row_lt stored, ?_⟩, row, column ▸ back⟩
  intro vacant
  rw [codeOf] at vacant
  rw [vacant, Pair.column_vacant] at column
  omega

/-! ### Images -/

structure Streamed (s : Sketch) (pairs : List Pair) : Prop where
  ascending : pairs.Pairwise (· < ·)
  inside : ∀ pair ∈ pairs, pair.InRange s.precision
  small : pairs.length ≤ 2 ^ 30

/-- Pairs as an image of the counter has them. -/
structure Written (s : Sketch) (pairs : List Pair) : Prop extends Streamed s pairs where
  few : pairs.length ≤ s.numCoupons
  listed : 2 * s.numCoupons < s.precision.rows → pairs.length = s.numCoupons

theorem length_codes (s : Sketch) :
    (sortPairs (s.table.items.map s.codeOf)).length = s.table.items.length := by
  rw [(sortPairs_perm _).length_eq, List.length_map]

/-- The pairs beside a window can be written, however many they are. -/
theorem Settled.codes_streamed (settled : s.Settled) (half : s.precision.rows ≤ 2 * s.numCoupons) :
    s.Streamed (sortPairs (s.table.items.map s.codeOf)) := by
  have distinct : (s.table.items.map s.codeOf).Nodup := by
    apply settled.table.distinct.map_on
    intro a inA b inB same
    obtain ⟨_, rowA, backA⟩ := settled.codeOf_spec half inA
    obtain ⟨_, rowB, backB⟩ := settled.codeOf_spec half inB
    rw [same] at rowA backA
    exact Pair.eq_of_cell (rowA.symm.trans rowB) (Except.ok.inj (backA.symm.trans backB))
  refine ⟨sortPairs_ascending distinct, fun pair member => ?_, ?_⟩
  · obtain ⟨other, stored, rfl⟩ := List.mem_map.mp ((sortPairs_perm _).mem_iff.mp member)
    exact (settled.codeOf_spec half stored).1
  · have load := settled.table.load
    have slots : 2 ^ s.table.lgSize ≤ 2 ^ 30 :=
      Nat.pow_le_pow_right (by decide) settled.table.lgSize_le
    rw [length_codes, ← settled.table.numItems]
    omega

/-- A counter has pairs to write where its table names no more cells than there are coupons. -/
theorem Settled.exists_written (settled : s.Settled) (few : s.table.numItems ≤ s.numCoupons) :
    ∃ pairs, s.imagePairs = .ok pairs ∧ s.Written (sortPairs pairs) := by
  have rows := s.precision.rows_le
  by_cases half : s.precision.rows ≤ 2 * s.numCoupons
  · have streamed := settled.codes_streamed half
    have length := s.length_codes
    rw [← settled.table.numItems] at length
    exact ⟨_, settled.imagePairs_windowed half, ⟨streamed, by omega, by omega⟩⟩
  · have listed := settled.imagePairs_listed (by omega)
    have start : s.offset = 0 := by rw [settled.offset_eq, windowOffset_eq_zero (by omega)]
    have perm := sortPairs_perm (s.table.items ++ s.windowPairs)
    have length := perm.length_eq.trans ((settled.length_listed start).trans settled.count)
    refine ⟨_, listed, ⟨⟨sortPairs_ascending (settled.nodup_listed start), ?_, by omega⟩, by omega,
      fun _ => length⟩⟩
    intro pair member
    exact settled.inRange_listed pair (perm.mem_iff.mp member)

/-- What is written restores the counter where a table can be made of its pairs at once. -/
theorem Settled.restores (settled : s.Settled) (small : s.table.numItems ≤ 3 * 2 ^ 24)
    (listed : s.imagePairs = .ok pairs) (seed : UInt64) :
    s.Restores seed s.imageWindow (sortPairs pairs) := by
  by_cases half : s.precision.rows ≤ 2 * s.numCoupons
  · cases (settled.imagePairs_windowed half).symm.trans listed
    rw [imageWindow_windowed half]
    exact settled.restores_windowed small half
  · cases (settled.imagePairs_listed (by omega)).symm.trans listed
    exact settled.restores_listed small (by omega)

def head (s : Sketch) (pairs : List Pair) : Preamble where
  precision := s.precision
  firstInteresting := UInt8.ofNat s.firstInteresting
  seedHash := Hash.seedHash s.seed
  coupons := UInt32.ofNat s.numCoupons
  tableEntries := UInt32.ofNat pairs.length
  tableWords := UInt32.ofNat (PairStream.encode s.precision pairs).size
  windowWords := UInt32.ofNat s.imageWindow.size
  merged := s.merged
  hipState := s.hipState

theorem imageOf_eq (s : Sketch) (pairs : List Pair) : s.imageOf pairs =
    (s.head pairs).toBytes ++ wordsBytes s.imageWindow ++
      wordsBytes (PairStream.encode s.precision pairs) := rfl

/-- A window that has not moved past the last column has passed fewer than 60K cells. -/
theorem Settled.numCoupons_lt (settled : s.Settled) : s.numCoupons < 2 ^ 32 := by
  have within := settled.offset_le
  have rows := s.precision.rows_le
  have bound : windowOffset s.precision s.numCoupons < 56 + 1 := by
    rw [← settled.offset_eq]
    omega
  rw [windowOffset_lt_iff] at bound
  omega

theorem Valid.imageWindow_size (valid : s.Valid) :
    s.imageWindow.size < 2 ^ 32 ∧ (0 < s.imageWindow.size ↔ s.precision.rows ≤ 2 * s.numCoupons) := by
  by_cases half : s.precision.rows ≤ 2 * s.numCoupons
  · have size := valid.size_window (valid.allocated half)
    have words : 0 < (WindowStream.encode s.precision s.numCoupons s.window).size ∧ _ :=
      WindowStream.encode_size size
    rw [imageWindow_windowed half]
    exact ⟨words.2, iff_of_true words.1 half⟩
  · rw [imageWindow_listed (by omega)]
    exact ⟨by decide, iff_of_false (by decide) half⟩

theorem Settled.head_fields (settled : s.Settled) (streamed : s.Streamed pairs) :
    (s.head pairs).coupons.toNat = s.numCoupons ∧
    (s.head pairs).tableEntries.toNat = pairs.length ∧
    (s.head pairs).tableWords.toNat = (PairStream.encode s.precision pairs).size ∧
    (s.head pairs).windowWords.toNat = s.imageWindow.size ∧
    (s.head pairs).firstInteresting.toNat = s.firstInteresting := by
  have many := settled.numCoupons_lt
  have small := streamed.small
  have table := (PairStream.encode_size streamed.ascending
    (fun pair member => (streamed.inside pair member).1) small).1
  have interesting := settled.interesting.trans settled.offset_le
  refine ⟨UInt32.toNat_ofNat_of_lt' many, UInt32.toNat_ofNat_of_lt' (small.trans_lt (by decide)),
    UInt32.toNat_ofNat_of_lt' table, UInt32.toNat_ofNat_of_lt' settled.imageWindow_size.1,
    UInt8.toNat_ofNat_of_lt' (interesting.trans_lt (by decide))⟩

theorem Settled.head_parts (settled : s.Settled) (streamed : s.Streamed pairs) :
    ((s.head pairs).parts.table = true ↔ pairs ≠ []) ∧
    ((s.head pairs).parts.window = true ↔ s.precision.rows ≤ 2 * s.numCoupons) := by
  obtain ⟨_, _, table, window, _⟩ := settled.head_fields streamed
  have tableSize := (PairStream.encode_size streamed.ascending
    (fun pair member => (streamed.inside pair member).1) streamed.small).2
  simp only [Preamble.parts, decide_eq_true_eq, UInt32.lt_iff_toNat_lt, table, window]
  exact ⟨tableSize, settled.imageWindow_size.2⟩

theorem Settled.head_fits (settled : s.Settled) (written : s.Written pairs) :
    (s.head pairs).parts.fit (Flavor.ofCount (s.head pairs).precision (s.head pairs).coupons.toNat) =
      true := by
  obtain ⟨coupons, _⟩ := settled.head_fields written.toStreamed
  obtain ⟨table, window⟩ := settled.head_parts written.toStreamed
  have few := written.few
  have positive := s.precision.rows_pos
  have none : pairs = [] ↔ pairs.length = 0 := List.length_eq_zero_iff.symm
  have listed := written.listed
  have precision : (s.head pairs).precision = s.precision := rfl
  have present : s.precision.rows ≤ 2 * s.numCoupons → (s.head pairs).parts.window = true := window.mpr
  have absent (few : 2 * s.numCoupons < s.precision.rows) : (s.head pairs).parts.window = false := by
    rw [Bool.eq_false_iff, ne_eq, window]
    omega
  have no_table (empty : pairs.length = 0) : (s.head pairs).parts.table = false := by
    rw [Bool.eq_false_iff, ne_eq, table, ne_eq, none, not_not]
    exact empty
  have some_table (some : 0 < pairs.length) : (s.head pairs).parts.table = true := by
    rw [table, ne_eq, none]
    omega
  rw [coupons, precision]
  rcases ofCount_cases s.precision s.numCoupons with ⟨_, flavor⟩ | ⟨_, _, flavor⟩ |
    ⟨_, _, flavor⟩ | ⟨_, _, flavor⟩ | ⟨_, flavor⟩ <;> rw [flavor, Preamble.Parts.fit]
  · rw [no_table (by omega), absent (by omega)]
    rfl
  · rw [some_table (by omega), absent (by omega)]
    rfl
  · rw [some_table (by omega), absent (by omega)]
    rfl
  · exact present (by omega)
  · exact present (by omega)

theorem Settled.head_placed (settled : s.Settled) (written : s.Written pairs) :
    (s.head pairs).Placed := by
  obtain ⟨coupons, entries, _, _, interesting⟩ := settled.head_fields written.toStreamed
  obtain ⟨table, window⟩ := settled.head_parts written.toStreamed
  have none : pairs = [] ↔ pairs.length = 0 := List.length_eq_zero_iff.symm
  refine ⟨?_, settled.head_fits written, ?_, ?_⟩
  · have := settled.interesting.trans settled.offset_le
    rw [UInt8.le_iff_toNat_le, interesting]
    exact this.trans (by decide)
  · intro one
    cases has_table : (s.head pairs).parts.table with
    | true =>
      rw [has_table, Bool.true_and, Bool.eq_false_iff, ne_eq, window] at one
      rw [if_pos rfl, ← UInt32.toNat_inj, entries, coupons]
      exact written.listed (by omega)
    | false =>
      rw [Bool.eq_false_iff, ne_eq, table, ne_eq, none, not_not] at has_table
      rw [if_neg (by decide), ← UInt32.toNat_inj, entries, has_table]
      rfl
  · intro blank
    rw [← UInt32.toNat_inj, coupons] at blank
    exact settled.history blank

theorem Settled.head_writable (settled : s.Settled)
    (finite : s.merged = false →
      s.hipState.kxp.isFinite = true ∧ s.hipState.accumulated.isFinite = true)
    (written : s.Written pairs) : (s.head pairs).Writable := by
  obtain ⟨coupons, entries, _⟩ := settled.head_fields written.toStreamed
  have table := (settled.head_parts written.toStreamed).1
  refine ⟨settled.head_placed written, ?_, ?_, ?_, ?_⟩
  · have bound := s.bitMatrix.count_le
    rw [settled.size_bitMatrix, settled.count] at bound
    rwa [coupons]
  · have few := written.few
    rwa [UInt32.le_iff_toNat_le, entries, coupons]
  · intro some same
    rw [table, ne_eq, ← List.length_eq_zero_iff, ← entries, same] at some
    exact some rfl
  · cases own : s.merged with
    | true => simp [Preamble.hipFinite, head, own]
    | false => simp [Preamble.hipFinite, head, finite own]

theorem Settled.ofHead_head (settled : s.Settled) (written : s.Written pairs) (seed : UInt64) :
    ofHead seed (s.head pairs) = s.blank seed := by
  have coupons := (settled.head_fields written.toStreamed).1
  have history := ofHead_hipState (settled.head_placed written) seed
  simp only [ofHead] at history
  simp only [ofHead, history, coupons]
  rfl

/-- What is written of a counter is read back. -/
theorem Settled.ofImage_toImage (settled : s.Settled) (storable : s.Storable)
    (hash : Hash.seedHash seed = Hash.seedHash s.seed) :
    ∃ bytes r, s.toImage = .ok bytes ∧ ofImage seed bytes = .ok r ∧ r.seed = seed ∧ r.Alike s := by
  obtain ⟨few, small⟩ := le_min_iff.mp storable.few
  obtain ⟨pairs, listed, written⟩ := settled.exists_written few
  obtain ⟨table, run, items, count⟩ := settled.restores small listed seed
  obtain ⟨coupons, entries, tableWords, windowWords, interesting⟩ := settled.head_fields written.toStreamed
  have writable := settled.head_writable storable.finite written
  have tally : tally { s.blank seed with table := table, window := s.window, offset := s.offset } =
      s.numCoupons := by
    rw [← settled.count, ← (settled.tallyable settled.offset_le).tally_eq]
    simp only [Sketch.tally, count, items.countP_eq, blank, new]
  refine ⟨s.imageOf (sortPairs pairs), { s.blank seed with
    table := table, window := s.window, offset := s.offset, firstInteresting := s.firstInteresting },
    ?_, ?_, rfl, ⟨rfl, rfl, rfl, rfl, rfl, rfl, rfl, items⟩⟩
  · simp only [toImage, listed]
  · rw [ofImage, imageOf_eq]
    refine bind_eq_ok.mpr ⟨⟨s.head (sortPairs pairs), s.imageWindow, _⟩, Failure.ofError_eq_ok.mpr
      (Image.sections_append writable hash windowWords.symm tableWords.symm), ?_⟩
    simp only [coupons, entries, interesting, settled.ofHead_head written]
    refine bind_eq_ok.mpr ⟨sortPairs pairs, Failure.ofImage_eq_ok.mpr
      (PairStream.decode_encode written.ascending written.inside), ?_⟩
    refine bind_eq_ok.mpr ⟨_, run, ?_⟩
    refine bind_eq_ok.mpr ⟨(), Failure.ofImage_eq_ok.mpr
      (ensure_eq_ok.mpr (decide_eq_true settled.interesting)), ?_⟩
    refine bind_eq_ok.mpr ⟨(), Failure.ofImage_eq_ok.mpr
      (ensure_eq_ok.mpr (beq_iff_eq.mpr tally)), ?_⟩
    rfl

end Sketch

/-! ### Counters that can come about -/

theorem Pair.ofHash_inRange (p : Precision) (lanes : Hash.Lanes) : (Pair.ofHash p lanes).InRange p := by
  have rows := p.rows_le
  have inside : lanes.first.toNat % p.rows < p.rows := Nat.mod_lt _ p.rows_pos
  have small : 63 - Nat.log2 lanes.second.toNat < 64 := by omega
  simp only [ofHash]
  generalize lanes.first.toNat % p.rows = row at inside
  generalize 63 - Nat.log2 lanes.second.toNat = column at small
  split
  · rename_i reserved
    have last := congrArg Pair.row reserved
    rw [row_pack (by omega) small, row_vacant] at last
    refine ⟨?_, fun again => ?_⟩
    · rw [row_pack (by omega) small]
      omega
    · have again := congrArg Pair.row again
      rw [row_pack (by omega) small, row_vacant] at again
      omega
  · rename_i real
    exact ⟨by rwa [row_pack (by omega) small], real⟩

/-- Every result of a union is a valid counter. One of 2^32 cells has lost them all,
since their number is kept in 32 bits. -/
theorem Union.toSketch_valid {u : Union} {r : Sketch} (fits : u.Fits) (made : u.toSketch = .ok r) :
    r.Valid ∧ r.Dropped := by
  by_cases few : u.state.bitMatrix.count < 2 ^ 32
  · obtain ⟨valid, _, _, _, dropped⟩ := toSketch_spec fits few made
    exact ⟨valid, dropped⟩
  · have size := fits.size
    have rows := u.precision.rows_le
    have bound := u.state.bitMatrix.count_le
    obtain ⟨precision, seed, state⟩ := u
    cases state with
    | accumulator s =>
      obtain ⟨valid, none, rfl, _⟩ := fits
      have sparse := (Sketch.windowed_eq_iff.mp valid.windowed).mp none
      rw [← valid.count] at sparse
      simp only [State.bitMatrix] at few rows
      omega
    | matrix m =>
      have wraps : m.count % 2 ^ 32 = 0 := by
        simp only [State.bitMatrix] at few bound size rows
        have : m.count = 2 ^ 32 := by omega
        rw [this, Nat.mod_self]
      cases (Sketch.ofBitMatrix_wrapped seed wraps).symm.trans made
      exact ⟨(Sketch.newMerged_valid precision seed).1, Sketch.dropHistory_dropped _⟩

namespace Sketch

/-- Counters that come about by updates, from images and by merges, in any order. A merge
may take counters whose window has moved past the last column. -/
inductive Reached : Sketch → Prop
  | new (p : Precision) (seed : UInt64) : Reached (new p seed)
  | updated {s after : Sketch} {bytes : List UInt8} :
      Reached s → s.update bytes = .ok after → Reached after
  | collected {s after : Sketch} {pair : Pair} :
      Reached s → pair.InRange s.precision → s.collect pair = .ok after → Reached after
  | read {s : Sketch} {seed : UInt64} {bytes : List UInt8} : ofImage seed bytes = .ok s → Reached s
  | merged {s : Sketch} {p : Precision} {seed : UInt64} {sources : List Sketch} {u : Union} :
      (∀ source ∈ sources, Reached source) → (Union.new p seed).updateAll sources = .ok u →
        u.toSketch = .ok s → Reached s

theorem collect_kept {s after : Sketch} {pair : Pair} (valid : s.Valid) (fresh : s.FreshHistory)
    (inside : pair.InRange s.precision) (run : s.collect pair = .ok after) :
    after.Valid ∧ after.FreshHistory := by
  rcases collect_cases valid inside run with ⟨rfl, _⟩ | ⟨_, collects⟩
  · exact ⟨valid, fresh⟩
  · exact ⟨collects.valid, collects.freshHistory fresh⟩

theorem Reached.kept {s : Sketch} (reached : s.Reached) : s.Valid ∧ s.FreshHistory := by
  induction reached with
  | new p seed => exact ⟨(new_valid p seed).1, fun _ => rfl⟩
  | updated _ run ih => exact collect_kept ih.1 ih.2 (Pair.ofHash_inRange _ _) run
  | collected _ inside run ih => exact collect_kept ih.1 ih.2 inside run
  | read run =>
    obtain ⟨settled, _⟩ := ofImage_sound run
    exact ⟨settled.toValid, settled.history⟩
  | @merged s p seed sources u _ run made ih =>
    obtain ⟨fits, _⟩ := Union.updateAll_spec (Union.new_fits p seed).1
      (fun source member => (ih source (List.mem_of_mem_filter member)).1) run
    obtain ⟨valid, dropped⟩ := Union.toSketch_valid fits made
    exact ⟨valid, dropped.freshHistory⟩

/-- A union that has merged such counters is in one of its two states. -/
theorem Reached.union_fits {p : Precision} {seed : UInt64} {sources : List Sketch} {u : Union}
    (reached : ∀ source ∈ sources, source.Reached)
    (run : (Union.new p seed).updateAll sources = .ok u) : u.Fits :=
  (Union.updateAll_spec (Union.new_fits p seed).1
    (fun source member => (reached source (List.mem_of_mem_filter member)).kept.1) run).1

theorem Reached.collectAll {s after : Sketch} {coupons : List Pair} (reached : s.Reached)
    (inside : ∀ coupon ∈ coupons, coupon.InRange s.precision)
    (run : s.collectAll coupons = .ok after) : after.Reached := by
  induction coupons generalizing s with
  | nil =>
    cases run
    exact reached
  | cons coupon rest ih =>
    obtain ⟨next, step, run⟩ := collectAll_cons.mp run
    have small := inside coupon (by simp)
    have precision : next.precision = s.precision := by
      rcases collect_cases reached.kept.1 small step with ⟨rfl, _⟩ | ⟨_, collects⟩
      · rfl
      · exact collects.precision
    apply ih (reached.collected small step) _ run
    intro other member
    rw [precision]
    exact inside other (by simp [member])

/-- A counter is read back from its image as it was written, with any seed of the same
seed hash, and its image does not change by that. -/
def RoundTrips (s : Sketch) : Prop :=
  ∀ seed, Hash.seedHash seed = Hash.seedHash s.seed →
    ∃ bytes r, s.toImage = .ok bytes ∧ ofImage seed bytes = .ok r ∧ r.seed = seed ∧ r.Alike s ∧
      r.toImage = .ok bytes

theorem Settled.roundTrips {s : Sketch} (settled : s.Settled) (storable : s.Storable) : s.RoundTrips := by
  intro seed hash
  obtain ⟨bytes, r, written, read, sameSeed, alike⟩ := settled.ofImage_toImage storable hash
  refine ⟨bytes, r, written, read, sameSeed, alike, ?_⟩
  rw [alike.toImage_eq (by rw [sameSeed, hash]), written]

/-- Images lose nothing. Whatever updates, images and merges have made of a counter, it is
read back from its image as it was, as long as its window ends at column 63 at the latest
and it keeps to the limits of an image; and so is every counter that was read itself. -/
theorem image_round_trip :
    (∀ s : Sketch, s.Reached → s.offset ≤ lastWindowOffset → s.Storable → s.RoundTrips) ∧
      ∀ (seed : UInt64) (bytes : List UInt8) (r : Sketch), ofImage seed bytes = .ok r →
        r.RoundTrips := by
  constructor
  · intro s reached within storable
    obtain ⟨valid, history⟩ := reached.kept
    exact Settled.roundTrips ⟨valid, within, history⟩ storable
  · intro seed bytes r read
    obtain ⟨settled, storable, _⟩ := ofImage_sound read
    exact settled.roundTrips storable

/-- Coupons of 16 rows whose window moves, with a gap before it and a cell behind it. -/
def gappedCoupons : List Pair := Pair.pack 3 20 :: (columnCoupons 62).drop 1

theorem gappedCoupons_inRange : ∀ coupon ∈ gappedCoupons, coupon.InRange Precision.least := by
  rintro coupon (_ | ⟨_, member⟩)
  · decide
  · exact columnCoupons_inRange (by decide) coupon (List.mem_of_mem_drop member)

/-- A counter whose window has moved, with a history that can be written. -/
theorem exists_gapped : ∃ s, (new Precision.least 9001).collectAll gappedCoupons = .ok s ∧
    s.offset = 1 ∧ s.table.numItems = 2 ∧ s.numCoupons = 62 ∧ s.merged = false ∧ s.Storable := by
  have moved : ((new Precision.least 9001).collectAll gappedCoupons).toOption.map
      (fun s => (s.offset, s.table.numItems, s.numCoupons, s.merged,
        s.hipState.kxp.isFinite, s.hipState.accumulated.isFinite)) =
      some (1, 2, 62, false, true, true) := by decide +kernel
  obtain ⟨s, run, shape⟩ := exists_ok_of_map moved
  simp only [Prod.mk.injEq] at shape
  obtain ⟨offset, items, coupons, own, finite⟩ := shape
  exact ⟨s, run, offset, items, coupons, own, fun _ => finite, by rw [items, coupons]; decide⟩

theorem image_round_trip_moved :
    ∃ s bytes r, (new Precision.least 9001).collectAll gappedCoupons = .ok s ∧
      s.offset = 1 ∧ s.table.numItems = 2 ∧ s.merged = false ∧
      s.toImage = .ok bytes ∧ ofImage s.seed bytes = .ok r ∧ r.Alike s ∧ r.toImage = .ok bytes := by
  obtain ⟨s, run, offset, items, _, own, storable⟩ := exists_gapped
  have reached := (Reached.new _ _).collectAll gappedCoupons_inRange run
  obtain ⟨bytes, r, written, read, _, alike, again⟩ :=
    image_round_trip.1 s reached (by rw [offset]; decide) storable s.seed rfl
  exact ⟨s, bytes, r, run, offset, items, own, written, read, alike, again⟩

end Sketch
end DistinctCount
