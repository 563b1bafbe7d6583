import DistinctCount.Proofs.Layout

/-! Laying a matrix out around a window. Whatever the offset, the window and the
surprises together stand for the matrix they were taken from, and the columns that
updates pass over afterwards are full. -/
namespace DistinctCount.Sketch

variable {s : Sketch} {m : BitMatrix} {offset row column : Nat}

/-- The cells that a table has to hold beside a window at `offset`. -/
def surpriseCells (offset : Nat) (m : BitMatrix) : Finset (Nat × Nat) :=
  BitMatrix.cells (m.map (surprises offset))

theorem mem_surpriseCells (within : offset < 64) : (row, column) ∈ surpriseCells offset m ↔
    row < m.size ∧ column < 64 ∧ (column < offset ∧ m.isSet row column = false ∨
      offset + 8 ≤ column ∧ m.isSet row column = true) := by
  rw [surpriseCells, BitMatrix.mem_cells]
  by_cases inside : row < m.size
  · have bound : row < (Array.map (surprises offset) m).size := by simpa using inside
    by_cases small : column < 64
    · have word : (Array.map (surprises offset) m)[row] = surprises offset m[row] := by simp
      rw [BitMatrix.isSet_of_lt bound, word, isSet_surprises _ small within,
        ← BitMatrix.isSet_of_lt inside]
      by_cases early : column < offset
      · simp [inside, small, early, Nat.not_le.mpr (by omega : column < offset + 8)]
      · by_cases late : column < offset + 8
        · simp [early, late, Nat.not_le.mpr late]
        · simp [inside, small, early, late, Nat.le_of_not_lt late]
    · simp [small]
  · have outside : (Array.map (surprises offset) m).size ≤ row := by
      simpa using Nat.le_of_not_lt inside
    simp [BitMatrix.isSet_of_le outside, inside]

theorem isSet_foldl_or (words : List UInt64) (seen : UInt64) (small : column < 64) :
    Row.isSet (words.foldl (fun seen word => seen ||| surprises offset word) seen) column =
      (Row.isSet seen column || words.any fun word => Row.isSet (surprises offset word) column) := by
  induction words generalizing seen with
  | nil => simp
  | cons word rest ih =>
    rw [List.foldl_cons, ih, Row.isSet_or _ _ small, List.any_cons, Bool.or_assoc]

theorem firstSurprise_le (offset : Nat) (m : BitMatrix) : firstSurprise offset m ≤ offset :=
  Nat.min_le_right _ _

theorem full_before_firstSurprise (within : offset < 64) (inside : row < m.size)
    (before : column < firstSurprise offset m) : m.isSet row column = true := by
  have early : column < offset := before.trans_le (firstSurprise_le offset m)
  have small : column < 64 := early.trans within
  have clear := Row.clear_before_firstColumn (before.trans_le (Nat.min_le_left _ _)) small
  rw [← Array.foldl_toList, isSet_foldl_or _ _ small, Bool.or_eq_false_iff, List.any_eq_false] at clear
  have word := clear.2 m[row] (by simp)
  rw [isSet_surprises _ small within, if_pos early, ← BitMatrix.isSet_of_lt inside] at word
  simpa using word

/-- The first surprise is not before a column up to which all rows are full. -/
theorem le_firstSurprise {first : Nat} (within : offset < 64) (early : first ≤ offset)
    (full : ∀ row < m.size, ∀ column < first, m.isSet row column = true) :
    first ≤ firstSurprise offset m := by
  refine le_min ?_ early
  by_contra late
  have before := Nat.lt_of_not_le late
  have column := before.trans_le early
  have small := column.trans within
  have gap := Row.isSet_firstColumn small
  generalize Row.firstColumn _ = gapColumn at before column small gap
  rw [← Array.foldl_toList, isSet_foldl_or _ _ small] at gap
  simp only [Row.isSet_zero, Bool.false_or, List.any_eq_true] at gap
  obtain ⟨word, listed, surprise⟩ := gap
  obtain ⟨row, inside, rfl⟩ := Array.mem_iff_getElem.mp (Array.mem_toList_iff.mp listed)
  rw [isSet_surprises _ small within, if_pos column, ← BitMatrix.isSet_of_lt inside,
    full row inside _ before] at surprise
  contradiction

theorem firstSurprise_isGreatest (within : offset < 64) :
    IsGreatest {first | first ≤ offset ∧ ∀ row < m.size, ∀ column < first,
      m.isSet row column = true} (firstSurprise offset m) := by
  constructor
  · exact ⟨firstSurprise_le offset m, fun row inside column before =>
      full_before_firstSurprise within inside before⟩
  · rintro first ⟨early, full⟩
    exact le_firstSurprise within early full

theorem windowBit_map {bit : Nat} (inside : row < m.size) (within : offset + bit < 64) :
    windowBit (m.map (windowByte offset)) row bit =
      (decide (bit < 8) && m.isSet row (offset + bit)) := by
  have byte : (m.map (windowByte offset)).getD row 0 = windowByte offset m[row] := by simp [inside]
  rw [windowBit, byte, testBit_windowByte _ within, BitMatrix.isSet_of_lt inside]

theorem bitMatrix_of_split (layout : s.Layout) (size : m.size = s.precision.rows)
    (window : s.window = m.map (windowByte s.offset))
    (items : ∀ pair : Pair, pair ∈ s.table.items ↔ pair.cell ∈ surpriseCells s.offset m) :
    s.bitMatrix = m := by
  have within := layout.offset_lt
  have rows := s.precision.rows_le
  have allocated : s.window ≠ #[] := window_ne_empty (p := s.precision) (by simpa [window] using size)
  apply BitMatrix.ext_isSet (layout.size_bitMatrix.trans size.symm)
  intro row inside column small
  rw [layout.size_bitMatrix] at inside
  obtain ⟨pair, rfl, rfl⟩ := Pair.exists_cell (inside.trans_le rows) small
  have named := (items pair).trans (mem_surpriseCells within)
  rw [← size] at inside
  simp only [inside, small, true_and] at named
  rw [size] at inside
  by_cases before : pair.column < s.offset
  · rw [Bool.eq_iff_iff, layout.isSet_before inside before, named]
    simp [before, Nat.not_le.mpr (by omega : pair.column < s.offset + 8)]
  · by_cases near : pair.column < s.offset + 8
    · have bit : s.offset + (pair.column - s.offset) = pair.column := by omega
      rw [layout.isSet_inside allocated inside (by omega) near, window,
        windowBit_map (by omega) (by omega), bit, decide_eq_true (by omega), Bool.true_and]
    · rw [Bool.eq_iff_iff, layout.isSet_behind inside (by omega), named]
      simp [before, Nat.le_of_not_lt near]

/-- Surprises are pairs that a table can hold, as long as none has the name of a free slot. -/
theorem inRange_surprise {p : Precision} (size : m.size = p.rows) (within : offset < 64)
    (real : Pair.vacant.cell ∉ surpriseCells offset m) :
    ∀ pair ∈ BitMatrix.pairs (m.map (surprises offset)), pair.InRange p := by
  have small : (Array.map (surprises offset) m).size ≤ 2 ^ 26 := by simpa [size] using p.rows_le
  intro pair member
  have surprise : pair.cell ∈ surpriseCells offset m := (BitMatrix.mem_pairs small).mp member
  refine ⟨size ▸ ((mem_surpriseCells within).mp surprise).1, ?_⟩
  rintro rfl
  exact real surprise

/-- Laying out a matrix loses nothing, as long as no surprise has the name of a free
slot. -/
theorem layOut_spec {table : PairTable} {after : Sketch} (empty : table.WellFormed)
    (width : table.validBits = s.precision.pairBits) (none : table.items = [])
    (size : m.size = s.precision.rows) (within : offset < 64)
    (real : Pair.vacant.cell ∉ surpriseCells offset m)
    (laid : layOut s offset table m = .ok after) :
    (∃ filled, after = { s with
      firstInteresting := firstSurprise offset m
      table := filled
      offset := offset
      window := m.map (windowByte offset) }) ∧
    (∀ pair : Pair, pair ∈ after.table.items ↔ pair.cell ∈ surpriseCells offset m) ∧
    after.Layout ∧ after.bitMatrix = m := by
  have rows := s.precision.rows_le
  have small : (Array.map (surprises offset) m).size ≤ 2 ^ 26 := by simpa [size] using rows
  have listed (pair : Pair) : pair ∈ BitMatrix.pairs (m.map (surprises offset)) ↔
      pair.cell ∈ surpriseCells offset m := BitMatrix.mem_pairs small
  unfold layOut at laid
  split at laid
  · contradiction
  · rename_i filled inserted
    obtain ⟨wellFormed, filledWidth, perm⟩ := PairTable.insertAll_fresh empty width none
      (BitMatrix.nodup_pairs small) (inRange_surprise size within real) inserted
    have items (pair : Pair) : pair ∈ filled.items ↔ pair.cell ∈ surpriseCells offset m :=
      perm.mem_iff.trans (listed pair)
    cases laid
    have layout : Layout { s with
        firstInteresting := firstSurprise offset m
        table := filled
        offset := offset
        window := m.map (windowByte offset) } := by
      refine ⟨wellFormed, filledWidth, within, Or.inr (by simpa using size), ?_⟩
      intro _ pair member
      rcases ((mem_surpriseCells within).mp ((items pair).mp member)).2.2 with ⟨before, _⟩ | ⟨behind, _⟩
      · exact Or.inl before
      · exact Or.inr behind
    exact ⟨⟨filled, rfl⟩, items, layout, bitMatrix_of_split layout size rfl items⟩

end DistinctCount.Sketch
