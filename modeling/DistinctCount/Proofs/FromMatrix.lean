import DistinctCount.Proofs.CouponSet

/-! From a matrix to a counter. Below 2^32 set cells the counter made from a matrix is
valid and stands for that matrix. One cell has no name that a table can hold, so a
matrix may have it only where the window covers it. -/
namespace DistinctCount

variable {p : Precision} {seed : UInt64} {m : BitMatrix}

theorem windowOffset_lt {coupons : Nat} (few : coupons ≤ 64 * p.rows) :
    windowOffset p coupons < 62 := by
  have positive := p.rows_pos
  exact windowOffset_lt_iff.mpr (by omega : 8 * coupons < (27 + 8 * 61) * p.rows)

namespace BitMatrix

/-- The cell of the vacant word is set only where the window has come to its column. -/
def Covered (p : Precision) (m : BitMatrix) : Prop :=
  Pair.vacant.cell ∈ m.cells → lastWindowOffset ≤ windowOffset p m.count

theorem Covered.mono {more : BitMatrix} (covered : m.Covered p)
    (member : Pair.vacant.cell ∈ m.cells) (subset : m.cells ⊆ more.cells) : more.Covered p :=
  fun _ => (covered member).trans (windowOffset_mono p (count_mono subset))

theorem Covered.of_few (few : m.size < 2 ^ 26) : m.Covered p := by
  intro member
  have inside := row_lt_of_mem_cells member
  rw [Pair.row_vacant] at inside
  omega

theorem Covered.not_surprise (covered : m.Covered p) (few : m.count ≤ 64 * p.rows) :
    Pair.vacant.cell ∉ Sketch.surpriseCells (windowOffset p m.count) m := by
  have bound := windowOffset_lt few
  intro surprise
  rw [Pair.cell, Sketch.mem_surpriseCells (by omega), Pair.column_vacant] at surprise
  obtain ⟨_, _, ⟨before, _⟩ | ⟨behind, set⟩⟩ := surprise
  · omega
  · have late := covered (cell_mem_cells.mpr (Pair.column_vacant ▸ set))
    simp only [lastWindowOffset] at late
    omega

end BitMatrix

namespace Sketch

variable {s : Sketch}

/-- The matrix of a valid counter: a table never holds the vacant word. -/
theorem Valid.covered (valid : s.Valid) : s.bitMatrix.Covered s.precision := by
  intro member
  have inside : Pair.vacant.row < s.precision.rows :=
    valid.size_bitMatrix ▸ BitMatrix.row_lt_of_mem_cells member
  rw [valid.count, ← valid.offset_eq, lastWindowOffset]
  by_contra early
  have listed := (valid.mem_cells_listed inside
    (Or.inr (by rw [Pair.column_vacant]; omega))).mp member
  exact PairTable.real_of_mem listed rfl

theorem ofBitMatrix_eq (p : Precision) (seed : UInt64) (m : BitMatrix) :
    ofBitMatrix p seed m =
      let s := { newMerged p seed with numCoupons := m.count % 2 ^ 32 }
      if s.numCoupons = 0 then .ok s
      else if 32 * s.numCoupons < 3 * p.rows then
        match s.table.insertAll m.pairs with
        | .error fault => .error fault
        | .ok table => .ok { s with table := table }
      else
        match PairTable.new (max (p.lgK - 4) 2) p.pairBits with
        | .error fault => .error fault
        | .ok table => layOut s (windowOffset p s.numCoupons) table m := by
  have positive := p.rows_pos
  have flavor : flavor { newMerged p seed with numCoupons := m.count % 2 ^ 32 } =
      Flavor.ofCount p (m.count % 2 ^ 32) := rfl
  have layouts := ofCount_cases p (m.count % 2 ^ 32)
  simp only [ofBitMatrix, flavor]
  generalize Flavor.ofCount p (m.count % 2 ^ 32) = layout at layouts ⊢
  rcases layouts with ⟨zero, rfl⟩ | ⟨some, few, rfl⟩ | windowed
  · exact (if_pos zero).symm
  · exact ((if_neg some.ne').trans (if_pos few)).symm
  · have many : 3 * p.rows ≤ 32 * (m.count % 2 ^ 32) := by omega
    rw [if_neg (by omega), if_neg (by omega)]
    rcases windowed with ⟨_, _, rfl⟩ | ⟨_, _, rfl⟩ | ⟨_, rfl⟩ <;> rfl

/-- A counter made of a matrix has no window yet, or it is laid out around one. -/
theorem ofBitMatrix_shape (made : ofBitMatrix p seed m = .ok s) :
    s.offset = 0 ∧ s.firstInteresting = 0 ∨
      s.window = m.map (windowByte s.offset) ∧ s.firstInteresting = firstSurprise s.offset m := by
  rw [ofBitMatrix_eq] at made
  dsimp only at made
  split_ifs at made
  · cases made
    exact Or.inl ⟨rfl, rfl⟩
  · split at made
    · contradiction
    · cases made
      exact Or.inl ⟨rfl, rfl⟩
  · split at made
    · contradiction
    · unfold layOut at made
      split at made
      · contradiction
      · cases made
        exact Or.inr ⟨rfl, rfl⟩

theorem layout_of_pairs {table : PairTable} (wellFormed : table.WellFormed)
    (width : table.validBits = p.pairBits) (numCoupons : Nat) :
    Layout { newMerged p seed with numCoupons := numCoupons, table := table } :=
  ⟨wellFormed, width, Nat.zero_lt_succ 63, Or.inl ⟨rfl, rfl⟩, fun some => (some rfl).elim⟩

theorem insertAll_pairs_total (size : m.size = p.rows) (absent : Pair.vacant.cell ∉ m.cells)
    (few : m.count ≤ p.rows) : ∃ table, (PairTable.empty p).insertAll m.pairs = .ok table ∧
      table.WellFormed ∧ table.validBits = p.pairBits ∧
      ∀ pair : Pair, pair ∈ table.items ↔ pair.cell ∈ m.cells := by
  have rows := p.rows_le
  have listed (pair : Pair) : pair ∈ m.pairs ↔ pair.cell ∈ m.cells :=
    BitMatrix.mem_pairs (size ▸ rows)
  have distinct : m.pairs.Nodup := BitMatrix.nodup_pairs (size ▸ rows)
  have inside (pair : Pair) (member : pair ∈ m.pairs) : pair.InRange p :=
    ⟨size ▸ BitMatrix.row_lt_of_mem_cells ((listed pair).mp member),
      fun same => absent (same ▸ (listed pair).mp member)⟩
  have length : m.pairs.length ≤ m.count := BitMatrix.length_pairs_le (size ▸ rows)
  have room : m.pairs.length ≤ PairTable.capacity p.pairBits := by
    have grown : p.rows ≤ 2 ^ (min (p.pairBits - 1) 30 - 2) := by
      have := p.le_twentySix
      exact Nat.pow_le_pow_right (by decide) (by rw [Precision.pairBits]; omega)
    rw [PairTable.capacity]
    omega
  obtain ⟨emptyFormed, emptyWidth, emptyItems⟩ := PairTable.empty_spec p
  obtain ⟨table, inserted⟩ :=
    PairTable.insertAll_fresh_total emptyFormed emptyWidth emptyItems distinct inside room
  obtain ⟨wellFormed, width, perm⟩ :=
    PairTable.insertAll_fresh emptyFormed emptyWidth emptyItems distinct inside inserted
  exact ⟨table, inserted, wellFormed, width, fun pair => perm.mem_iff.trans (listed pair)⟩

theorem ofBitMatrix_sparse (seed : UInt64) (size : m.size = p.rows) (covered : m.Covered p)
    (sparse : 32 * m.count < 3 * p.rows) :
    ∃ s, ofBitMatrix p seed m = .ok s ∧ s.Valid ∧ s.bitMatrix = m ∧ s.precision = p ∧
      s.seed = seed ∧ s.Dropped := by
  have rows := p.rows_le
  have start : windowOffset p m.count = 0 := windowOffset_eq_zero (by omega)
  have absent : Pair.vacant.cell ∉ m.cells := by
    intro member
    have late := covered member
    simp only [start, lastWindowOffset] at late
    omega
  obtain ⟨table, inserted, wellFormed, width, items⟩ := insertAll_pairs_total size absent (by omega)
  have layout := @layout_of_pairs p seed table wellFormed width m.count
  have matrix : bitMatrix { newMerged p seed with numCoupons := m.count, table := table } = m := by
    apply BitMatrix.ext_isSet (layout.size_bitMatrix.trans size.symm)
    intro row inside column small
    rw [layout.size_bitMatrix] at inside
    obtain ⟨pair, rfl, rfl⟩ := Pair.exists_cell (inside.trans_le rows) small
    rw [Bool.eq_iff_iff, layout.isSet_sparse rfl inside, items, BitMatrix.cell_mem_cells]
  refine ⟨{ newMerged p seed with numCoupons := m.count, table := table }, ?_,
    ⟨layout, start.symm, windowed_eq_iff.mpr (iff_of_true rfl sparse), le_refl 0,
      congrArg BitMatrix.count matrix⟩, matrix, rfl, rfl, rfl, rfl⟩
  simp only [ofBitMatrix_eq, Nat.mod_eq_of_lt (by omega : m.count < 2 ^ 32)]
  split_ifs with zero
  · have length := BitMatrix.length_pairs_le (size ▸ rows)
    have none : m.pairs = [] := List.length_eq_zero_iff.mp (by omega)
    rw [none] at inserted
    cases inserted
    rfl
  · have run : (newMerged p seed).table.insertAll m.pairs = .ok table := inserted
    rw [run]

/-- The counter made of a matrix stands for it. -/
theorem ofBitMatrix_spec (size : m.size = p.rows) (covered : m.Covered p) (few : m.count < 2 ^ 32)
    (made : ofBitMatrix p seed m = .ok s) :
    s.Valid ∧ s.bitMatrix = m ∧ s.precision = p ∧ s.seed = seed ∧ s.Dropped := by
  by_cases sparse : 32 * m.count < 3 * p.rows
  · obtain ⟨other, run, spec⟩ := ofBitMatrix_sparse seed size covered sparse
    cases run.symm.trans made
    exact spec
  · have sixteen := p.sixteen_le_rows
    have count_le : m.count ≤ 64 * p.rows := size ▸ m.count_le
    have bound := windowOffset_lt count_le
    have real := covered.not_surprise count_le
    simp only [ofBitMatrix_eq, Nat.mod_eq_of_lt few] at made
    rw [if_neg (by omega), if_neg sparse] at made
    split at made
    · contradiction
    · rename_i table created
      obtain ⟨wellFormed, width, items⟩ := PairTable.new_spec created
      obtain ⟨⟨filled, rfl⟩, _, layout, matrix⟩ := layOut_spec
        (s := { newMerged p seed with numCoupons := m.count }) wellFormed width items size
        (by omega) real made
      refine ⟨⟨layout, rfl, ?_, firstSurprise_le _ _, congrArg BitMatrix.count matrix⟩, matrix, rfl, rfl, rfl, rfl⟩
      apply windowed_eq_iff.mpr
      exact iff_of_false (window_ne_empty (p := p) (by simpa using size)) sparse

/-- Where the number of cells wraps to zero the counter is the empty one. -/
theorem ofBitMatrix_wrapped (seed : UInt64) (wraps : m.count % 2 ^ 32 = 0) :
    ofBitMatrix p seed m = .ok (newMerged p seed) := by
  simp only [ofBitMatrix_eq, wraps, if_true]
  rfl

end Sketch
end DistinctCount
