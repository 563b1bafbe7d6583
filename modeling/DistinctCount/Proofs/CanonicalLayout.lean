import DistinctCount.Proofs.Capacity
import DistinctCount.Proofs.Invariance

/-! Each set of cells has one layout. Where the window stands, what it holds and which pairs
the table names follow from the cells of a counter. The updates, merges and images that led
to it, and their order, show in its history and in the slots of its table at most. -/
namespace DistinctCount

variable {a b s after : Sketch} {pair : Pair}

namespace Sketch

/-- The same layout up to the order of the slots. -/
structure SameLayout (a b : Sketch) : Prop where
  numCoupons : a.numCoupons = b.numCoupons
  flavor : a.flavor = b.flavor
  offset : a.offset = b.offset
  window : a.window = b.window
  items : a.table.items.Perm b.table.items

/-- No bit of the window stands for a column behind the last. -/
def Trimmed (s : Sketch) : Prop :=
  ∀ row bit, windowBit s.window row bit = true → s.offset + bit < 64

/-! ### The layout of a set of cells -/

/-- The window of a counter says of each of its columns which cells are set. -/
theorem Layout.window_eq (layoutA : a.Layout) (layoutB : b.Layout) (trimmedA : a.Trimmed)
    (trimmedB : b.Trimmed) (precision : a.precision = b.precision) (offset : a.offset = b.offset)
    (allocated : a.window = #[] ↔ b.window = #[]) (matrix : a.bitMatrix = b.bitMatrix) :
    a.window = b.window := by
  by_cases none : b.window = #[]
  · rw [none, allocated.mpr none]
  have some : a.window ≠ #[] := mt allocated.mp none
  have sizeA := layoutA.size_window some
  have sizeB := layoutB.size_window none
  apply window_ext (by rw [sizeA, sizeB, precision])
  intro row bit
  by_cases cell : row < a.precision.rows ∧ bit < 8 ∧ a.offset + bit < 64
  · obtain ⟨inside, byte, narrow⟩ := cell
    obtain ⟨pair, rfl, column⟩ := Pair.exists_cell (inside.trans_le a.precision.rows_le) narrow
    have insideA := layoutA.isSet_inside some inside (by omega) (by omega)
    have insideB := layoutB.isSet_inside none (precision ▸ inside) (by omega) (by omega)
    have shifted : pair.column - a.offset = bit := by omega
    rw [shifted] at insideA
    rw [← offset, shifted] at insideB
    rw [← insideA, ← insideB, matrix]
  · have clearA : windowBit a.window row bit = false := by
      rw [Bool.eq_false_iff]
      exact fun set => cell ⟨sizeA ▸ windowBit_row_lt set, windowBit_lt set, trimmedA row bit set⟩
    have clearB : windowBit b.window row bit = false := by
      rw [Bool.eq_false_iff]
      intro set
      refine cell ⟨?_, windowBit_lt set, offset ▸ trimmedB row bit set⟩
      rw [precision, ← sizeB]
      exact windowBit_row_lt set
    rw [clearA, clearB]

theorem Layout.items_perm (layoutA : a.Layout) (layoutB : b.Layout)
    (precision : a.precision = b.precision) (offset : a.offset = b.offset)
    (allocated : a.window = #[] ↔ b.window = #[]) (matrix : a.bitMatrix = b.bitMatrix) :
    a.table.items.Perm b.table.items := by
  rw [List.perm_ext_iff_of_nodup layoutA.table.distinct layoutB.table.distinct]
  intro pair
  by_cases inside : pair.row < a.precision.rows
  · have insideB : pair.row < b.precision.rows := precision ▸ inside
    by_cases none : b.window = #[]
    · rw [← layoutA.isSet_sparse (allocated.mpr none) inside, ← layoutB.isSet_sparse none insideB,
        matrix]
    · rw [layoutA.mem_items_iff (mt allocated.mp none) inside, layoutB.mem_items_iff none insideB,
        matrix, offset]
  · refine iff_of_false (fun member => inside (layoutA.row_lt member)) fun member => inside ?_
    rw [precision]
    exact layoutB.row_lt member

theorem Layout.bitMatrix_of_cells (layoutA : a.Layout) (layoutB : b.Layout)
    (precision : a.precision = b.precision) (cells : a.bitMatrix.cells = b.bitMatrix.cells) :
    a.bitMatrix = b.bitMatrix := by
  refine BitMatrix.ext_cells ?_ cells
  rw [layoutA.size_bitMatrix, layoutB.size_bitMatrix, precision]

/-- The number of the cells decides on the window, and then each cell has its place. -/
theorem Valid.sameLayout (validA : a.Valid) (validB : b.Valid) (trimmedA : a.Trimmed)
    (trimmedB : b.Trimmed) (precision : a.precision = b.precision)
    (matrix : a.bitMatrix = b.bitMatrix) : a.SameLayout b := by
  have numCoupons : a.numCoupons = b.numCoupons := by rw [← validA.count, ← validB.count, matrix]
  have offset : a.offset = b.offset := by
    rw [validA.offset_eq, validB.offset_eq, precision, numCoupons]
  have allocated : a.window = #[] ↔ b.window = #[] := by
    rw [windowed_eq_iff.mp validA.windowed, windowed_eq_iff.mp validB.windowed, precision,
      numCoupons]
  exact ⟨numCoupons, by rw [flavor, flavor, precision, numCoupons], offset,
    validA.window_eq validB.toLayout trimmedA trimmedB precision offset allocated matrix,
    validA.items_perm validB.toLayout precision offset allocated matrix⟩

/-! ### Windows that have moved past the last column -/

theorem trimmed_of_le (last : s.offset ≤ 56) : s.Trimmed := by
  intro row bit set
  have := windowBit_lt set
  omega

theorem Settled.trimmed (settled : s.Settled) : s.Trimmed := trimmed_of_le settled.offset_le

theorem Trimmed.withTable (trimmed : s.Trimmed) {novel : Bool}
    {change : PairTable → Except Fault (PairTable × Bool)}
    (run : s.withTable change = .ok (after, novel)) : after.offset = s.offset ∧ after.Trimmed := by
  rw [withTable_eq] at run
  split at run
  · contradiction
  · cases run
    exact ⟨rfl, trimmed⟩

theorem Trimmed.record (trimmed : s.Trimmed) {novel : Bool}
    (run : s.record pair = .ok (after, novel)) : after.offset = s.offset ∧ after.Trimmed := by
  unfold Sketch.record at run
  split_ifs at run with before near
  · exact trimmed.withTable run
  · rw [withWindow_eq] at run
    split at run
    · contradiction
    · rename_i window answer changed
      cases run
      refine ⟨rfl, ?_⟩
      have inside : pair.row < s.window.size := by
        by_contra outside
        rw [setWindowBit, dif_neg outside] at changed
        contradiction
      obtain ⟨marked, marking, _, bits, _⟩ :=
        setWindowBit_spec inside (by omega : pair.column - s.offset < 8)
      cases marking.symm.trans changed
      intro row bit set
      rw [bits, Bool.or_eq_true, decide_eq_true_eq] at set
      rcases set with old | ⟨_, rfl⟩
      · exact trimmed row bit old
      · have column := pair.column_lt
        dsimp only
        omega
  · exact trimmed.withTable run

/-- Past the last column the window does not move any more. -/
theorem Trimmed.collect (trimmed : s.Trimmed) (valid : s.Valid) (inside : pair.InRange s.precision)
    (run : s.collect pair = .ok after) : after.Trimmed := by
  -- Up to column 56 every bit has a column. Past it only the recording of a cell is left.
  by_cases last : s.offset ≤ 56
  · rcases collect_cases valid inside run with ⟨rfl, _⟩ | ⟨_, collects⟩
    · exact trimmed
    · rcases collects.offset with stays | moved
      · exact trimmed_of_le (stays ▸ last)
      · exact trimmed_of_le moved
  · have allocated : s.window.isEmpty = false := by
      rw [Bool.eq_false_iff, ne_eq, Array.isEmpty_iff]
      intro none
      have := valid.offset_sparse none
      omega
    simp only [Sketch.collect, allocated, Bool.false_eq_true, if_false] at run
    split_ifs at run with passed
    · cases run
      exact trimmed
    · unfold collectWindowed at run
      split at run
      · contradiction
      · rename_i recorded
        cases run
        exact (trimmed.record recorded).2
      · rename_i next recorded
        obtain ⟨offset, later⟩ := trimmed.record recorded
        dsimp only at run
        split_ifs at run with full
        · have past : lastWindowOffset < (next.charge pair).offset + 1 := by
            rw [charge, offset, lastWindowOffset]
            omega
          rw [slide, if_pos past] at run
          contradiction
        · cases run
          exact later

theorem trimmed_of_map {m : BitMatrix} (within : s.offset < 64)
    (window : s.window = m.map (windowByte s.offset)) : s.Trimmed := by
  intro row bit set
  rw [window] at set
  have inside : row < m.size := by simpa using windowBit_row_lt set
  have byte : (m.map (windowByte s.offset)).getD row 0 = windowByte s.offset m[row] := by simp [inside]
  rw [windowBit, byte] at set
  exact lt_of_testBit_windowByte within set

theorem ofBitMatrix_trimmed {p : Precision} {seed : UInt64} {m : BitMatrix} (valid : s.Valid)
    (made : ofBitMatrix p seed m = .ok s) : s.Trimmed := by
  rcases ofBitMatrix_shape made with ⟨start, _⟩ | ⟨window, _⟩
  · exact trimmed_of_le (start.le.trans (Nat.zero_le 56))
  · exact trimmed_of_map valid.offset_lt window

end Sketch

theorem Union.toSketch_trimmed {u : Union} {r : Sketch} (fits : u.Fits) (made : u.toSketch = .ok r) :
    r.Trimmed := by
  have valid := (toSketch_valid fits made).1
  obtain ⟨precision, seed, state⟩ := u
  unfold toSketch at made
  cases state with
  | accumulator s =>
    obtain ⟨validS, none, _⟩ := fits
    have start := validS.offset_sparse none
    dsimp only at made
    split_ifs at made
    · cases made
      exact Sketch.trimmed_of_le (Nat.zero_le 56)
    · cases made
      exact Sketch.trimmed_of_le (start.le.trans (Nat.zero_le 56))
  | matrix m => exact Sketch.ofBitMatrix_trimmed valid made

namespace Sketch

/-- However a counter came about, its window ends with the last column. -/
theorem Reached.trimmed (reached : s.Reached) : s.Trimmed := by
  induction reached with
  | new p seed => exact trimmed_of_le (Nat.zero_le 56)
  | updated reached run ih => exact ih.collect reached.kept.1 (Pair.ofHash_inRange _ _) run
  | collected reached inside run ih => exact ih.collect reached.kept.1 inside run
  | read run => exact (ofImage_sound run).1.trimmed
  | merged reached run made => exact Union.toSketch_trimmed (Reached.union_fits reached run) made

/-! ### Counters of the same cells -/

theorem Valid.bitMatrix_eq (validA : a.Valid) (validB : b.Valid)
    (matrix : a.bitMatrix? = b.bitMatrix?) : a.bitMatrix = b.bitMatrix := by
  rw [validA.bitMatrix?_eq, validB.bitMatrix?_eq] at matrix
  exact Except.ok.inj matrix

/-- The layout is canonical. Counters of the same precision and the same matrix have the same
number of coupons, flavor, place and content of the window and pairs in the table, if they
are as the representation asks, and also if they came about by any updates, merges and
images. So the order in which new counters are given some coupons, and how often they are
given each, does not matter. -/
theorem cells_determine_layout :
    (∀ a b : Sketch, a.Representation → b.Representation → a.precision = b.precision →
      a.bitMatrix? = b.bitMatrix? → a.SameLayout b) ∧
    (∀ a b : Sketch, a.Reached → b.Reached → a.precision = b.precision →
      a.bitMatrix? = b.bitMatrix? → a.SameLayout b) ∧
    ∀ (p : Precision) (seedA seedB : UInt64) (coupons others : List Pair) (a b : Sketch),
      (∀ coupon ∈ coupons, coupon.InRange p) → (∀ coupon, coupon ∈ coupons ↔ coupon ∈ others) →
      (new p seedA).collectAll coupons = .ok a → (new p seedB).collectAll others = .ok b →
      a.SameLayout b := by
  refine ⟨?_, ?_, ?_⟩
  · intro a b partsA partsB precision matrix
    have settledA := partsA.settled
    have settledB := partsB.settled
    exact settledA.sameLayout settledB.toValid settledA.trimmed settledB.trimmed precision
      (settledA.bitMatrix_eq settledB.toValid matrix)
  · intro a b reachedA reachedB precision matrix
    have validA := reachedA.kept.1
    have validB := reachedB.kept.1
    exact validA.sameLayout validB reachedA.trimmed reachedB.trimmed precision
      (validA.bitMatrix_eq validB matrix)
  · intro p seedA seedB coupons others a b inside same runA runB
    have insideB (coupon : Pair) (member : coupon ∈ others) : coupon.InRange p :=
      inside coupon ((same coupon).mpr member)
    have reachedA := (Reached.new p seedA).collectAll inside runA
    have reachedB := (Reached.new p seedB).collectAll insideB runB
    obtain ⟨precisionA, cellsA⟩ := collectAll_cells inside runA
    obtain ⟨precisionB, cellsB⟩ := collectAll_cells insideB runB
    have precision : a.precision = b.precision := precisionA.trans precisionB.symm
    have cells : a.bitMatrix.cells = b.bitMatrix.cells := by
      rw [cellsA, cellsB]
      ext cell
      simp only [List.mem_toFinset, List.mem_map, same]
    exact reachedA.kept.1.sameLayout reachedB.kept.1 reachedA.trimmed reachedB.trimmed precision
      (reachedA.kept.1.bitMatrix_of_cells reachedB.kept.1.toLayout precision cells)

/-- 56 coupons of 16 rows. The window has moved by one column, and two pairs are behind it. -/
def movingCoupons : List Pair :=
  columnCoupons 54 ++ [Pair.pack 0 20, Pair.pack 1 20]

def movingSources : List Sketch :=
  [ofCoupons Precision.least 9001 (movingCoupons.take 30),
    ofCoupons Precision.least 9001 (movingCoupons.drop 20)]

def movingMatrix : BitMatrix :=
  #[1048591, 1048591] ++ Array.replicate 4 15 ++ Array.replicate 10 7

/-- The coupons in one order, in the other order with some repeated, and by a merge of two
counters that have some in common. The tables have different numbers of slots. -/
theorem cells_determine_layout_orders : ∃ a b u r,
    (new Precision.least 9001).collectAll movingCoupons = .ok a ∧
    (new Precision.least 1).collectAll
      (movingCoupons.reverse ++ movingCoupons.take 9) = .ok b ∧
    (Union.new Precision.least 9001).updateAll movingSources = .ok u ∧ u.toSketch = .ok r ∧
    a.offset = 1 ∧ a.table.lgSize = 2 ∧ b.table.lgSize = 3 ∧ a.SameLayout b ∧ a.SameLayout r := by
  have inside : ∀ coupon ∈ movingCoupons, coupon.InRange Precision.least :=
    List.all_iff_forall_prop.mp (by decide +kernel)
  have shapeA : ((new Precision.least 9001).collectAll movingCoupons).toOption.map
      (fun a => (a.precision, a.offset, a.table.lgSize, a.bitMatrix)) =
        some (Precision.least, 1, 2, movingMatrix) := by decide +kernel
  have shapeB : ((new Precision.least 1).collectAll
      (movingCoupons.reverse ++ movingCoupons.take 9)).toOption.map (·.table.lgSize) = some 3 := by
    decide +kernel
  have shapeR : ((Union.new Precision.least 9001).updateAll movingSources).toOption.map
      (fun u => u.toSketch.toOption.map fun r => (r.precision, r.bitMatrix)) =
        some (some (Precision.least, movingMatrix)) := by decide +kernel
  obtain ⟨a, runA, partsA⟩ := exists_ok_of_map shapeA
  obtain ⟨b, runB, sizeB⟩ := exists_ok_of_map shapeB
  obtain ⟨u, runU, partsU⟩ := exists_ok_of_map shapeR
  obtain ⟨r, made, partsR⟩ := exists_ok_of_map partsU
  simp only [Prod.mk.injEq] at partsA partsR
  obtain ⟨precisionA, offset, sizeA, matrixA⟩ := partsA
  obtain ⟨precisionR, matrixR⟩ := partsR
  have source {coupons : List Pair} (some : coupons ⊆ movingCoupons) :
      (ofCoupons Precision.least 9001 coupons).Reached := by
    unfold ofCoupons
    split
    · rename_i run
      exact (Reached.new _ 9001).collectAll (fun coupon member => inside coupon (some member)) run
    · exact .new _ 9001
  have reachedA : a.Reached := (Reached.new _ 9001).collectAll inside runA
  have reachedR : r.Reached := by
    refine .merged ?_ runU made
    simp only [movingSources, List.mem_cons, List.not_mem_nil, or_false, forall_eq_or_imp, forall_eq]
    exact ⟨source (List.take_subset ..), source (List.drop_subset ..)⟩
  have matrix : a.bitMatrix? = r.bitMatrix? := by
    rw [reachedA.kept.1.bitMatrix?_eq, reachedR.kept.1.bitMatrix?_eq, matrixA, matrixR]
  obtain ⟨_, reached, orders⟩ := cells_determine_layout
  refine ⟨a, b, u, r, runA, runB, runU, made, offset, sizeA, sizeB, ?_, ?_⟩
  · exact orders _ 9001 1 _ _ a b inside (by simpa using fun coupon => List.mem_of_mem_take) runA runB
  · exact reached a r reachedA reachedR (precisionA.trans precisionR.symm) matrix

end Sketch
end DistinctCount
