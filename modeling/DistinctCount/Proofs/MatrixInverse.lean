import DistinctCount.Proofs.MergeClosure

/-! Expanding a counter undoes laying out its matrix. A matrix that leaves the window room to
end at column 63 comes back cell by cell, whatever layout its number of cells calls for, and
the columns that updates of the counter pass over are as many as the matrix allows. -/
namespace DistinctCount

variable {p : Precision} {m : BitMatrix}

theorem windowOffset_le_last_iff {coupons : Nat} :
    windowOffset p coupons ≤ lastWindowOffset ↔ 8 * coupons < 475 * p.rows := by
  rw [lastWindowOffset, ← Nat.lt_succ_iff]
  exact windowOffset_lt_iff

theorem count_lt_of_few {coupons : Nat} (few : 8 * coupons < 475 * p.rows) : coupons < 2 ^ 32 := by
  have rows := p.rows_le
  omega

theorem BitMatrix.Covered.of_clear (size : m.size = p.rows)
    (clear : p.lgK = 26 → m.isSet Pair.vacant.row Pair.vacant.column = false) : m.Covered p := by
  by_cases highest : p.lgK = 26
  · intro member
    rw [BitMatrix.cell_mem_cells, clear highest] at member
    contradiction
  · have below := p.le_twentySix
    refine Covered.of_few (size.trans_lt ?_)
    exact Nat.pow_lt_pow_right (by decide) (by omega)

namespace Sketch

variable {s : Sketch} {seed : UInt64}

theorem ofBitMatrix_ok_iff (seed : UInt64) (size : m.size = p.rows) (covered : m.Covered p)
    (few : m.count < 2 ^ 32) : (∃ s, ofBitMatrix p seed m = .ok s) ↔
      numSurprises (windowOffset p m.count) m ≤ PairTable.capacity p.pairBits := by
  have bound := windowOffset_lt (size ▸ m.count_le)
  rw [numSurprises_eq (bound.trans (by decide))]
  constructor
  · rintro ⟨s, made⟩
    obtain ⟨valid, matrix, precision, _⟩ := ofBitMatrix_spec size covered few made
    have fits := valid.surprises_fit
    rwa [valid.offset_eq, ← valid.count, matrix, precision] at fits
  · exact ofBitMatrix_total seed size covered few

theorem ofBitMatrix_interesting (within : s.offset < 64) (made : ofBitMatrix p seed m = .ok s) :
    IsGreatest {first | first ≤ s.offset ∧ ∀ row < m.size, ∀ column < first,
      m.isSet row column = true} s.firstInteresting := by
  have greatest := @firstSurprise_isGreatest m s.offset within
  rcases ofBitMatrix_shape made with ⟨start, none⟩ | ⟨_, same⟩
  · have first : firstSurprise s.offset m = s.firstInteresting := by
      rw [none, firstSurprise, start, Nat.min_zero]
    exact first ▸ greatest
  · exact same ▸ greatest

/-- Expanding a counter undoes laying out its matrix. With fewer than 475K/8 cells, none of
them the one that has no name, a matrix is made into a counter where its surprises fit a
table. The counter is a merged one of the usual representation, stands for that very
matrix, and passes over the columns before the window up to the first gap. -/
theorem bitMatrix_ofBitMatrix (p : Precision) (seed : UInt64) (m : BitMatrix)
    (size : m.size = p.rows) (few : 8 * m.count < 475 * p.rows)
    (clear : p.lgK = 26 → m.isSet Pair.vacant.row Pair.vacant.column = false) :
    ((∃ s, ofBitMatrix p seed m = .ok s) ↔
      numSurprises (windowOffset p m.count) m ≤ PairTable.capacity p.pairBits) ∧
    ∀ s, ofBitMatrix p seed m = .ok s →
      s.precision = p ∧ s.seed = seed ∧ s.merged = true ∧ s.Representation ∧
      s.bitMatrix? = .ok m ∧
      IsGreatest {first | first ≤ s.offset ∧ ∀ row < p.rows, ∀ column < first,
        m.isSet row column = true} s.firstInteresting := by
  have covered := BitMatrix.Covered.of_clear size clear
  have small := count_lt_of_few few
  constructor
  · exact ofBitMatrix_ok_iff seed size covered small
  · intro s made
    obtain ⟨valid, matrix, precision, sameSeed, dropped⟩ := ofBitMatrix_spec size covered small made
    have within : s.offset ≤ lastWindowOffset := by
      rw [valid.offset_eq, ← valid.count, matrix, precision]
      exact windowOffset_le_last_iff.mpr few
    have settled := valid.settled_of_dropped dropped within
    refine ⟨precision, sameSeed, dropped.1, settled.representation, ?_, ?_⟩
    · rw [settled.bitMatrix?_eq, matrix]
    · rw [← size]
      exact ofBitMatrix_interesting settled.offset_lt made

/-- Six full columns of 16 rows, but for a gap in column 2, and one cell in column 40. -/
def gapMatrix : BitMatrix :=
  ((Array.replicate 16 0x3f).set 3 0x3b).set 7 0x1000000003f

/-- With 96 cells the window stands at column 3. The gap before it is at column 2. -/
theorem bitMatrix_ofBitMatrix_gap : ∃ s,
    ofBitMatrix Precision.least 9001 gapMatrix = .ok s ∧ s.offset = 3 ∧
    s.merged = true ∧ s.Representation ∧ s.bitMatrix? = .ok gapMatrix ∧ s.firstInteresting = 2 := by
  obtain ⟨accepted, inverse⟩ := bitMatrix_ofBitMatrix Precision.least 9001 gapMatrix
    (by decide) (by decide +kernel) (by decide)
  obtain ⟨s, made⟩ := accepted.mpr (by decide +kernel)
  obtain ⟨precision, _, merged, parts, matrix, first⟩ := inverse s made
  obtain ⟨m, expanded, count⟩ := parts.count
  cases matrix.symm.trans expanded
  have offset : s.offset = 3 := by
    rw [parts.offset_eq, precision, ← count]
    decide +kernel
  refine ⟨s, made, offset, merged, parts, matrix, first.unique ⟨⟨by omega, ?_⟩, ?_⟩⟩
  · decide +kernel
  · rintro other ⟨_, full⟩
    by_contra late
    have set := full 3 (by decide) 2 (Nat.lt_of_not_le late)
    have gap : gapMatrix.isSet 3 2 = false := by decide +kernel
    exact Bool.false_ne_true (gap.symm.trans set)

end Sketch
end DistinctCount
