import DistinctCount.Proofs.MatrixInverse
import DistinctCount.Proofs.SlotOrder

/-! The limits of an update. A counter takes a coupon without a fault exactly where the window
for the new number of coupons ends at column 63 at the latest and the table can hold the
surprises beside it, before the window moves and after. Nothing else can go wrong: rows and
slots are in range, each search of the table ends, and the counts keep to 32 bits. -/
namespace DistinctCount

def Precision.surpriseLimit (p : Precision) : Nat := (if p.lgK = 26 then 12 else 24) * p.rows

theorem Precision.capacity_pairBits (p : Precision) :
    PairTable.capacity p.pairBits = p.surpriseLimit := by
  have below := p.le_twentySix
  rw [PairTable.capacity, surpriseLimit, pairBits, rows]
  split
  · rename_i highest
    rw [highest]
    rfl
  · have slots : min (6 + p.lgK - 1) 30 - 2 = 3 + p.lgK := by omega
    rw [slots, Nat.pow_add]
    omega

theorem Precision.twelve_rows_le (p : Precision) : 12 * p.rows ≤ p.surpriseLimit := by
  apply Nat.mul_le_mul_right
  split <;> decide

/-- One more item than a table has, and four times as many, are numbers of 32 bits. -/
theorem PairTable.WellFormed.product_lt {t : PairTable} (wf : t.WellFormed) :
    4 * (t.numItems + 1) < 2 ^ 32 := by
  have slots : 2 ^ t.lgSize ≤ 2 ^ 30 := Nat.pow_le_pow_right (by decide) wf.lgSize_le
  have load := wf.load
  omega

namespace Sketch

variable {s after : Sketch} {pair : Pair} {a m : BitMatrix} {offset : Nat}

/-! ### Surprises of one cell more -/

section
variable (cells : m.cells = insert pair.cell a.cells)
include cells

theorem isSet_of_insert {row column : Nat} (small : column < 64) (other : (row, column) ≠ pair.cell) :
    m.isSet row column = a.isSet row column := by
  have member := Finset.ext_iff.mp cells (row, column)
  simp only [Finset.mem_insert, other, false_or, BitMatrix.mem_cells, small, true_and] at member
  exact Bool.eq_iff_iff.mpr member

/-- A cell that is set becomes a surprise behind the window, and is no longer one before it. -/
theorem surpriseCells_insert (within : offset < 64) (size : m.size = a.size) :
    surpriseCells offset m =
      if offset + 8 ≤ pair.column then insert pair.cell (surpriseCells offset a)
      else (surpriseCells offset a).erase pair.cell := by
  have set : pair.cell ∈ m.cells := cells ▸ Finset.mem_insert_self _ _
  have here : pair.cell ∈ surpriseCells offset m ↔ offset + 8 ≤ pair.column := by
    rw [Pair.cell, mem_surpriseCells within, BitMatrix.cell_mem_cells.mp set]
    simp [BitMatrix.row_lt_of_mem_cells set, pair.column_lt]
  ext ⟨row, column⟩
  by_cases same : (row, column) = pair.cell
  · rw [same, here]
    split <;> simp_all
  · have kept : (row, column) ∈ surpriseCells offset m ↔ (row, column) ∈ surpriseCells offset a := by
      rw [mem_surpriseCells within, mem_surpriseCells within, size]
      refine and_congr_right fun _ => and_congr_right fun small => ?_
      rw [isSet_of_insert cells small same]
    rw [kept]
    split
    · rw [Finset.mem_insert, or_iff_right same]
    · rw [Finset.mem_erase, and_iff_right same]

/-- So the table has one more item to hold behind the window, and otherwise none. -/
theorem card_surpriseCells_insert (within : offset < 64) (size : m.size = a.size)
    (clear : pair.cell ∉ a.cells) :
    (offset + 8 ≤ pair.column → (surpriseCells offset m).card = (surpriseCells offset a).card + 1) ∧
    (pair.column < offset + 8 → (surpriseCells offset m).card ≤ (surpriseCells offset a).card) := by
  rw [surpriseCells_insert cells within size]
  constructor
  · intro behind
    have novel : pair.cell ∉ surpriseCells offset a := by
      rw [Pair.cell, mem_surpriseCells within]
      rintro ⟨_, _, ⟨before, _⟩ | ⟨_, set⟩⟩
      · omega
      · exact clear (BitMatrix.cell_mem_cells.mpr set)
    rw [if_pos behind, Finset.card_insert_of_notMem novel]
  · intro near
    rw [if_neg (Nat.not_le.mpr near)]
    exact Finset.card_erase_le

end

/-! ### The matrix that an update leads to -/

/-- The matrix with a coupon added. One of a column that is passed over leaves it as it is. -/
def matrixWith (s : Sketch) (pair : Pair) : BitMatrix :=
  if pair.column < s.firstInteresting then s.bitMatrix else s.bitMatrix.orPairs [pair]

theorem matrixWith_of_passed (passed : pair.column < s.firstInteresting) :
    s.matrixWith pair = s.bitMatrix := if_pos passed

theorem Layout.size_matrixWith (layout : s.Layout) : (s.matrixWith pair).size = s.precision.rows := by
  rw [matrixWith]
  split
  · exact layout.size_bitMatrix
  · rw [BitMatrix.size_orPairs, layout.size_bitMatrix]

theorem Layout.size_matrixWith_eq (layout : s.Layout) :
    (s.matrixWith pair).size = s.bitMatrix.size :=
  layout.size_matrixWith.trans layout.size_bitMatrix.symm

theorem Layout.cells_matrixWith (layout : s.Layout) (inside : pair.row < s.precision.rows)
    (met : ¬ pair.column < s.firstInteresting) :
    (s.matrixWith pair).cells = insert pair.cell s.bitMatrix.cells := by
  have kept : foldCells s.precision {pair.cell} = {pair.cell} :=
    foldCells_of_lt (by simpa [Pair.cell] using inside)
  rw [matrixWith, if_neg met, BitMatrix.cells_orPairs layout.size_bitMatrix, Finset.insert_eq,
    Finset.union_comm]
  exact congrArg (· ∪ _) kept

theorem Layout.matrixWith_of_mem (layout : s.Layout) (inside : pair.row < s.precision.rows)
    (set : pair.cell ∈ s.bitMatrix.cells) : s.matrixWith pair = s.bitMatrix := by
  by_cases passed : pair.column < s.firstInteresting
  · exact matrixWith_of_passed passed
  · apply BitMatrix.ext_cells layout.size_matrixWith_eq
    rw [layout.cells_matrixWith inside passed, Finset.insert_eq_of_mem set]

theorem Collects.bitMatrix_eq (collects : s.Collects pair after) (layout : s.Layout)
    (inside : pair.row < s.precision.rows) (met : ¬ pair.column < s.firstInteresting) :
    after.bitMatrix = s.matrixWith pair := by
  apply BitMatrix.ext_cells
  · rw [collects.valid.size_bitMatrix, layout.size_matrixWith, collects.precision]
  · rw [collects.cells, layout.cells_matrixWith inside met]

theorem bitMatrix_of_collect (valid : s.Valid) (inside : pair.InRange s.precision)
    (run : s.collect pair = .ok after) : after.bitMatrix = s.matrixWith pair := by
  rcases collect_step valid run with ⟨ignored, rfl⟩ | ⟨fresh, collects⟩
  · rcases ignored with passed | set | ⟨reserved, _⟩
    · exact (matrixWith_of_passed passed).symm
    · exact (valid.matrixWith_of_mem inside.1 set).symm
    · exact (inside.2 reserved).elim
  · exact collects.bitMatrix_eq valid.toLayout inside.1 fun passed => fresh (Or.inl passed)

/-! ### The limits -/

/-- The limits that a coupon has to keep to: with it the window ends at column 63 at the
latest, and the surprises beside the window, where it is and where it goes, fit a table. -/
structure Admits (s : Sketch) (pair : Pair) : Prop where
  coupons : 8 * (s.matrixWith pair).count < 475 * s.precision.rows
  here : numSurprises s.offset (s.matrixWith pair) ≤ s.precision.surpriseLimit
  moved : numSurprises (windowOffset s.precision (s.matrixWith pair).count) (s.matrixWith pair) ≤
    s.precision.surpriseLimit

/-- A counter keeps to the limits as it is. -/
theorem Settled.within_limits (settled : s.Settled) :
    8 * s.bitMatrix.count < 475 * s.precision.rows ∧
      numSurprises s.offset s.bitMatrix ≤ s.precision.surpriseLimit ∧
      numSurprises (windowOffset s.precision s.bitMatrix.count) s.bitMatrix ≤
        s.precision.surpriseLimit := by
  have fits := settled.surprises_fit
  rw [s.precision.capacity_pairBits, ← numSurprises_eq settled.offset_lt] at fits
  rw [← windowOffset_le_last_iff, settled.count, ← settled.offset_eq]
  exact ⟨settled.offset_le, fits, fits⟩

/-- What was collected kept to the limits. -/
theorem Settled.admits (settled : s.Settled) (inside : pair.InRange s.precision)
    (run : s.collect pair = .ok after) : s.Admits pair := by
  have matrix := bitMatrix_of_collect settled.toValid inside run
  have keeps := settled.collect_keeps run
  obtain ⟨coupons, stayed, moved⟩ := keeps.settled.within_limits
  rw [matrix, keeps.precision] at coupons stayed moved
  refine ⟨coupons, ?_, moved⟩
  rcases collect_step settled.toValid run with ⟨_, rfl⟩ | ⟨fresh, collects⟩
  · exact stayed
  -- The window may have moved since, so for the place it had the former table is counted.
  have clear : pair.cell ∉ s.bitMatrix.cells := fun set => fresh (Or.inr (Or.inl set))
  obtain ⟨behind, near⟩ := card_surpriseCells_insert (matrix ▸ collects.cells) settled.offset_lt
    settled.size_matrixWith_eq clear
  rw [numSurprises_eq settled.offset_lt, ← s.precision.capacity_pairBits]
  by_cases late : s.offset + 8 ≤ pair.column
  · have absent : pair ∉ s.table.items := by
      rwa [← settled.isSet_behind inside.1 late, ← BitMatrix.cell_mem_cells]
    rw [behind late]
    exact settled.surprises_le.trans_lt
      (room_of_collect settled.toLayout fresh run (Or.inr late) absent)
  · exact (near (Nat.lt_of_not_le late)).trans settled.surprises_fit

/-- Within the limits a coupon is collected. -/
theorem Admits.collect_total (admits : s.Admits pair) (valid : s.Valid)
    (inside : pair.InRange s.precision) : ∃ after, s.collect pair = .ok after := by
  by_cases passed : pair.column < s.firstInteresting
  · exact ⟨s, by rw [collect, if_pos passed]⟩
  by_cases set : pair.cell ∈ s.bitMatrix.cells
  · exact ⟨s, collect_of_mem valid inside set⟩
  have cells := valid.cells_matrixWith inside.1 passed
  have count : (s.matrixWith pair).count = s.numCoupons + 1 := by
    rw [BitMatrix.count_eq_card, cells, Finset.card_insert_of_notMem set, ← BitMatrix.count_eq_card,
      valid.count]
  obtain ⟨coupons, here, moved⟩ := admits
  refine Sketch.collect_total valid inside.1 (fun _ => inside.2) ?_ ?_
  · intro listed _
    rw [s.precision.capacity_pairBits]
    by_cases none : s.window = #[]
    · have few := (windowed_eq_iff.mp valid.windowed).mp none
      have least := s.precision.twelve_rows_le
      rw [valid.numItems_sparse none]
      omega
    · obtain ⟨behind, _⟩ := card_surpriseCells_insert cells valid.offset_lt
        valid.size_matrixWith_eq set
      rw [numSurprises_eq valid.offset_lt, behind (listed.resolve_left none)] at here
      rw [valid.numItems_eq none]
      exact here
  · intro m size sameCells
    have same : m = s.matrixWith pair :=
      BitMatrix.ext_cells (size.trans valid.size_matrixWith.symm) (sameCells.trans cells.symm)
    have within := windowOffset_le_last_iff.mpr coupons
    rw [numSurprises_eq (within.trans_lt (by decide)), ← s.precision.capacity_pairBits] at moved
    rw [same, ← count]
    exact ⟨within, moved⟩

/-- An update with a coupon of a row ends in a fault exactly where the coupon is beyond the
limits. The first is the number of coupons that 56 moves of the window allow. The other is
the number of surprises that the largest table holds, 24 for each row or, with most rows,
12. Within them each index, search and resizing succeeds, and the counts, with the
products that the table compares, are numbers of 32 bits. -/
theorem collect_ok_iff_admits (s : Sketch) (parts : s.Representation) (pair : Pair)
    (inside : pair.InRange s.precision) :
    ((∃ after, s.collect pair = .ok after) ↔ s.Admits pair) ∧
    ∀ after, s.collect pair = .ok after →
      after.bitMatrix? = .ok (s.matrixWith pair) ∧ after.Representation ∧
      after.numCoupons < 2 ^ 32 ∧ 4 * (s.table.numItems + 1) < 2 ^ 32 ∧
      4 * after.table.numItems < 2 ^ 32 := by
  have settled := parts.settled
  refine ⟨⟨?_, fun admits => admits.collect_total settled.toValid inside⟩, ?_⟩
  · rintro ⟨after, run⟩
    exact settled.admits inside run
  · intro after run
    have next := (settled.collect_keeps run).settled
    have items := next.table.product_lt
    refine ⟨?_, next.representation, next.numCoupons_lt, settled.table.product_lt, by omega⟩
    rw [next.bitMatrix?_eq, bitMatrix_of_collect settled.toValid inside run]

/-- The last 13 columns of 16 rows are full, and column 11 has six cells. -/
def crowdedMatrix : BitMatrix :=
  Array.replicate 6 0xfff8000000000800 ++ Array.replicate 10 0xfff8000000000000

/-- With 214 coupons the window stands at column 11. The 176 gaps before it and the 208 cells
behind it are all that a table can hold, so there is no room for a coupon of column 50,
while one inside the window is taken. -/
theorem collect_ok_iff_admits_crowded : ∃ s after,
    ofBitMatrix Precision.least 9001 crowdedMatrix = .ok s ∧ s.Representation ∧
    s.Admits (Pair.pack 6 11) ∧ s.collect (Pair.pack 6 11) = .ok after ∧ after.Representation ∧
    after.bitMatrix? = .ok (crowdedMatrix.orPairs [Pair.pack 6 11]) ∧
    ¬ ∃ after, s.collect (Pair.pack 0 50) = .ok after := by
  have size : crowdedMatrix.size = Precision.rows Precision.least := by decide
  have few : crowdedMatrix.count < 2 ^ 32 := by decide +kernel
  have covered : crowdedMatrix.Covered Precision.least :=
    BitMatrix.Covered.of_clear size (by decide)
  obtain ⟨s, made⟩ := (ofBitMatrix_ok_iff 9001 size covered few).mpr (by decide +kernel)
  obtain ⟨valid, matrix, precision, _, dropped⟩ := ofBitMatrix_spec size covered few made
  have offset : s.offset = 11 := by
    rw [valid.offset_eq, ← valid.count, matrix, precision]
    decide +kernel
  have parts := (valid.settled_of_dropped dropped (offset.trans_le (by decide))).representation
  have first : s.firstInteresting = 0 := by
    by_contra some
    have set := (ofBitMatrix_interesting valid.offset_lt made).1.2 0 (by decide) 0
      (Nat.pos_of_ne_zero some)
    have clear : crowdedMatrix.isSet 0 0 = false := by decide +kernel
    exact Bool.false_ne_true (clear.symm.trans set)
  have grown (pair : Pair) : s.matrixWith pair = crowdedMatrix.orPairs [pair] := by
    rw [matrixWith, first, if_neg (Nat.not_lt_zero _), matrix]
  have admits : s.Admits (Pair.pack 6 11) := by
    refine ⟨?_, ?_, ?_⟩ <;> rw [grown, precision]
    · decide +kernel
    · rw [offset]
      decide +kernel
    · decide +kernel
  obtain ⟨taken, spec⟩ := collect_ok_iff_admits s parts (Pair.pack 6 11) (precision ▸ by decide)
  obtain ⟨after, run⟩ := taken.mpr admits
  obtain ⟨expanded, represents, _⟩ := spec after run
  refine ⟨s, after, made, parts, admits, run, represents, grown _ ▸ expanded, fun late => ?_⟩
  have full := ((collect_ok_iff_admits s parts (Pair.pack 0 50) (precision ▸ by decide)).1.mp late).here
  rw [grown, precision, offset] at full
  exact absurd full (by decide +kernel)

end Sketch
end DistinctCount
