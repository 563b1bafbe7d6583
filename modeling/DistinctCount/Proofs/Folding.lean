import DistinctCount.Proofs.CouponSet
import DistinctCount.Union
import Mathlib.Data.Int.GCD
import Mathlib.Data.List.Perm.Subperm

/-! Folding cells onto fewer rows. The ways a union takes cells over (row by row, pair
by pair, or in strides over the slots of a table) all add the folded cells and no
others. -/
namespace DistinctCount

/-- The cells that remain when only `p.rows` rows are kept. -/
def foldCells (p : Precision) (cells : Finset (Nat × Nat)) : Finset (Nat × Nat) :=
  cells.image fun cell => (cell.1 % p.rows, cell.2)

variable {p q : Precision} {cells : Finset (Nat × Nat)} {row column : Nat}

theorem mem_foldCells : (row, column) ∈ foldCells p cells ↔
    ∃ source, source % p.rows = row ∧ (source, column) ∈ cells := by
  simp only [foldCells, Finset.mem_image, Prod.mk.injEq, Prod.exists]
  constructor
  · rintro ⟨source, _, member, folded, rfl⟩
    exact ⟨source, folded, member⟩
  · rintro ⟨source, folded, member⟩
    exact ⟨source, column, member, folded, rfl⟩

theorem foldCells_union (p : Precision) (a b : Finset (Nat × Nat)) :
    foldCells p (a ∪ b) = foldCells p a ∪ foldCells p b := Finset.image_union a b

@[simp] theorem foldCells_empty (p : Precision) : foldCells p ∅ = ∅ := rfl

theorem foldCells_of_lt (inside : ∀ cell ∈ cells, cell.1 < p.rows) : foldCells p cells = cells := by
  rw [foldCells]
  conv_rhs => rw [← Finset.image_id (s := cells)]
  apply Finset.image_congr
  intro cell member
  simp [Nat.mod_eq_of_lt (inside cell member)]

theorem Precision.rows_dvd (coarser : p.lgK ≤ q.lgK) : p.rows ∣ q.rows :=
  Nat.pow_dvd_pow 2 coarser

/-- Folding in two steps is folding in one. -/
theorem foldCells_foldCells (coarser : p.lgK ≤ q.lgK) :
    foldCells p (foldCells q cells) = foldCells p cells := by
  rw [foldCells, foldCells, Finset.image_image, foldCells]
  congr 1
  funext cell
  simp [Nat.mod_mod_of_dvd _ (Precision.rows_dvd coarser)]

namespace BitMatrix

variable {m : BitMatrix}

theorem rows_of_size (size : m.size = p.rows) : ∀ cell ∈ m.cells, cell.1 < p.rows :=
  fun _ member => size ▸ row_lt_of_mem_cells member

theorem cells_orFolded (size : m.size = p.rows) (rows : BitMatrix) :
    (m.orFolded rows).cells = m.cells ∪ foldCells p rows.cells := by
  ext ⟨row, column⟩
  rw [mem_cells_orFolded (size ▸ p.rows_pos), Finset.mem_union, mem_foldCells, size]

theorem cells_orPairs (size : m.size = p.rows) (pairs : List Pair) :
    (m.orPairs pairs).cells = m.cells ∪ foldCells p (pairs.map Pair.cell).toFinset := by
  ext ⟨row, column⟩
  rw [mem_cells_orPairs (size ▸ p.rows_pos), Finset.mem_union, mem_foldCells, size]
  apply or_congr_right
  simp only [List.mem_toFinset, List.mem_map, Pair.cell, Prod.mk.injEq]
  constructor
  · rintro ⟨pair, member, folded, rfl⟩
    exact ⟨pair.row, folded, pair, member, rfl, rfl⟩
  · rintro ⟨_, folded, pair, member, rfl, rfl⟩
    exact ⟨pair, member, folded, rfl⟩

end BitMatrix

namespace Pair

theorem cell_fold (p : Precision) (pair : Pair) :
    (fold p pair).cell = (pair.row % p.rows, pair.column) := by
  have rows := p.rows_le
  have small : pair.row % p.rows < p.rows := Nat.mod_lt _ p.rows_pos
  rw [fold, cell, row_pack (by omega) pair.column_lt, column_pack (by omega) pair.column_lt]

/-- Folding gives a coupon of the coarser counter. The vacant word cannot arise: with
fewer than 2^26 rows its row is too large, and with as many a pair stays as it is. -/
theorem fold_inRange {pair : Pair} (real : pair ≠ vacant) : (fold p pair).InRange p := by
  have folded := cell_fold p pair
  have small : pair.row % p.rows < p.rows := Nat.mod_lt _ p.rows_pos
  refine ⟨(congrArg Prod.fst folded).trans_lt small, ?_⟩
  intro same
  rw [same] at folded
  have row : vacant.row = pair.row % p.rows := congrArg Prod.fst folded
  rw [row_vacant] at row
  have rows := p.rows_le
  have bound := pair.row_lt
  have unfolded : pair.row % p.rows = pair.row := Nat.mod_eq_of_lt (by omega)
  rw [unfolded] at folded
  exact real (cell_injective folded).symm

end Pair

namespace Union

theorem oddFrom_odd (n : Nat) : oddFrom n % 2 = 1 := by
  unfold oddFrom
  split <;> omega

variable {lgSize : Nat}

/-- Strides of an odd length meet every slot. -/
theorem mem_strides {stride index : Nat} (odd : stride % 2 = 1) (inside : index < 2 ^ lgSize) :
    index ∈ strides stride (2 ^ lgSize) := by
  have coprime : Nat.Coprime stride (2 ^ lgSize) := by
    apply Nat.Coprime.pow_right
    rw [Nat.coprime_comm, Nat.Coprime, Nat.gcd_rec, odd, Nat.gcd_one_left]
  have positive := Nat.two_pow_pos lgSize
  obtain ⟨step, small, meets⟩ := Nat.exists_mul_mod_eq_of_coprime index coprime positive.ne'
  rw [Nat.mod_eq_of_lt inside] at meets
  simp only [strides, List.mem_map, List.mem_range]
  -- The walk starts at step one, so the step zero that may meet the slot comes last.
  rcases Nat.eq_zero_or_pos step with rfl | later
  · refine ⟨2 ^ lgSize - 1, by omega, ?_⟩
    rw [Nat.sub_add_cancel positive, Nat.mul_mod_right]
    simpa using meets
  · exact ⟨step - 1, by omega, by rwa [Nat.sub_add_cancel later, Nat.mul_comm]⟩

/-- There are as many of them as slots, so they meet each slot once. -/
theorem strides_perm {stride : Nat} (odd : stride % 2 = 1) :
    (strides stride (2 ^ lgSize)).Perm (List.range (2 ^ lgSize)) := by
  have met : (List.range (2 ^ lgSize)).Subperm (strides stride (2 ^ lgSize)) :=
    List.subperm_of_subset List.nodup_range
      fun index inside => mem_strides odd (List.mem_range.mp inside)
  exact (met.perm_of_length_le (by simp [strides])).symm

section
variable {table : PairTable} (size : table.slots.size = 2 ^ lgSize)
include size

/-- A walk over slots meets each pair as often as it stands in them. -/
theorem walk_perm : (walk table).Perm table.items := by
  have slots : (List.range (2 ^ lgSize)).map (fun index => table.slots.getD index Pair.vacant) =
      table.slots.toList := by
    apply List.ext_getElem (by simp [size])
    intro index _ inside
    have bound : index < table.slots.size := by simpa using inside
    simp [bound]
  rw [walk, PairTable.items, ← slots, size]
  exact ((strides_perm (oddFrom_odd _)).map _).filter _

theorem fold_walk_inRange : ∀ pair ∈ (walk table).map (Pair.fold p), pair.InRange p := by
  intro pair member
  obtain ⟨source, walked, rfl⟩ := List.mem_map.mp member
  exact Pair.fold_inRange (PairTable.real_of_mem ((walk_perm size).mem_iff.mp walked))

theorem cells_fold_walk : (((walk table).map (Pair.fold p)).map Pair.cell).toFinset =
    foldCells p (table.items.map Pair.cell).toFinset := by
  ext ⟨row, column⟩
  simp only [List.mem_toFinset, List.mem_map, mem_foldCells, exists_exists_and_eq_and, Pair.cell_fold,
    (walk_perm size).mem_iff, Prod.mk.injEq]
  constructor
  · rintro ⟨pair, member, folded, rfl⟩
    exact ⟨pair.row, folded, pair, member, rfl⟩
  · rintro ⟨source, folded, pair, member, same⟩
    obtain ⟨rfl, rfl⟩ := Prod.mk.injEq .. ▸ same
    exact ⟨pair, member, folded, rfl⟩

theorem collectTable_gathers {s after : Sketch} (valid : s.Valid) (truthful : s.Truthful)
    (run : collectTable s table = .ok after) :
    s.Gathers (foldCells s.precision (table.items.map Pair.cell).toFinset) after := by
  have gathers := Sketch.collectAll_gathers valid truthful (fold_walk_inRange size) run
  rwa [cells_fold_walk size] at gathers

end

end Union
end DistinctCount
