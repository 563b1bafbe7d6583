import DistinctCount.Proofs.RowBits
import Mathlib.Algebra.BigOperators.Fin
import Mathlib.Algebra.BigOperators.Group.Finset.Piecewise
import Mathlib.Algebra.BigOperators.Group.Finset.Sigma

/-! A matrix as the set of its set cells. Two matrices of one size with the same
cells are equal, and the number of coupons of a matrix is the number of cells. -/
namespace DistinctCount

theorem Precision.rows_le (p : Precision) : p.rows ≤ 2 ^ 26 :=
  Nat.pow_le_pow_right (by decide) p.le_twentySix

theorem Precision.sixteen_le_rows (p : Precision) : 16 ≤ p.rows :=
  Nat.pow_le_pow_right (by decide : 0 < 2) p.four_le

namespace Pair

theorem column_lt (pair : Pair) : pair.column < 64 := Nat.mod_lt _ (by decide)

theorem toNat_eq (pair : Pair) : pair.toNat = 64 * pair.row + pair.column :=
  (Nat.div_add_mod pair.toNat 64).symm

theorem row_lt (pair : Pair) : pair.row < 2 ^ 26 := by
  have bound := pair.toNat_lt
  have value := pair.toNat_eq
  omega

variable {row column : Nat}

theorem toNat_pack (inside : row < 2 ^ 26) (small : column < 64) :
    (pack row column).toNat = 64 * row + column := by
  rw [pack, UInt32.toNat_ofNat']
  exact Nat.mod_eq_of_lt (by omega)

theorem row_pack (inside : row < 2 ^ 26) (small : column < 64) : (pack row column).row = row := by
  rw [Pair.row, toNat_pack inside small]
  omega

theorem column_pack (inside : row < 2 ^ 26) (small : column < 64) :
    (pack row column).column = column := by
  rw [Pair.column, toNat_pack inside small]
  omega

theorem exists_cell (inside : row < 2 ^ 26) (small : column < 64) :
    ∃ pair : Pair, pair.row = row ∧ pair.column = column :=
  ⟨pack row column, row_pack inside small, column_pack inside small⟩

@[simp] theorem pack_row_column (pair : Pair) : pack pair.row pair.column = pair := by
  apply UInt32.toNat_inj.mp
  rw [toNat_pack pair.row_lt pair.column_lt, ← toNat_eq]

theorem eq_of_cell {a b : Pair} (rows : a.row = b.row) (columns : a.column = b.column) : a = b := by
  rw [← pack_row_column a, ← pack_row_column b, rows, columns]

def cell (pair : Pair) : Nat × Nat := (pair.row, pair.column)

theorem cell_injective : Function.Injective cell := by
  intro a b same
  exact eq_of_cell (congrArg Prod.fst same) (congrArg Prod.snd same)

/-- A pair that a counter of precision `p` can collect. -/
def InRange (p : Precision) (pair : Pair) : Prop := pair.row < p.rows ∧ pair ≠ vacant

instance (p : Precision) (pair : Pair) : Decidable (InRange p pair) :=
  inferInstanceAs (Decidable (_ ∧ _))

theorem row_lt_rows_iff {p : Precision} {pair : Pair} :
    pair.row < p.rows ↔ pair.toNat < 2 ^ p.pairBits := by
  have power : 2 ^ p.pairBits = 64 * p.rows := by
    rw [Precision.pairBits, Nat.pow_add, Precision.rows]
  have value := pair.toNat_eq
  have small := pair.column_lt
  omega

theorem row_vacant : vacant.row = 2 ^ 26 - 1 := by decide

theorem column_vacant : vacant.column = 63 := by decide

end Pair

namespace BitMatrix

def isSet (m : BitMatrix) (row column : Nat) : Bool := Row.isSet (m.getD row 0) column

def cells (m : BitMatrix) : Finset (Nat × Nat) :=
  (Finset.range m.size ×ˢ Finset.range 64).filter fun cell => m.isSet cell.1 cell.2

variable {m : BitMatrix} {row column : Nat}

theorem isSet_of_lt (inside : row < m.size) : m.isSet row column = Row.isSet m[row] column := by
  rw [isSet, Array.getD_eq_getD_getElem?, Array.getElem?_eq_getElem inside, Option.getD_some]

theorem isSet_of_le (outside : m.size ≤ row) : m.isSet row column = false := by
  rw [isSet, Array.getD_eq_getD_getElem?, Array.getElem?_eq_none outside, Option.getD_none,
    Row.isSet_zero]

theorem mem_cells : (row, column) ∈ m.cells ↔ column < 64 ∧ m.isSet row column = true := by
  simp only [cells, Finset.mem_filter, Finset.mem_product, Finset.mem_range]
  constructor
  · rintro ⟨⟨_, small⟩, set⟩
    exact ⟨small, set⟩
  · rintro ⟨small, set⟩
    refine ⟨⟨?_, small⟩, set⟩
    by_contra outside
    rw [isSet_of_le (Nat.le_of_not_lt outside)] at set
    contradiction

theorem cell_mem_cells {pair : Pair} : pair.cell ∈ m.cells ↔ m.isSet pair.row pair.column = true :=
  mem_cells.trans (and_iff_right pair.column_lt)

theorem row_lt_of_mem_cells (member : (row, column) ∈ m.cells) : row < m.size := by
  simp only [cells, Finset.mem_filter, Finset.mem_product, Finset.mem_range] at member
  exact member.1.1

theorem ext_isSet {a b : BitMatrix} (sizes : a.size = b.size)
    (same : ∀ row < a.size, ∀ column < 64, a.isSet row column = b.isSet row column) : a = b := by
  apply Array.ext sizes
  intro row inside insideB
  apply Row.ext
  intro column small
  rw [← isSet_of_lt inside, ← isSet_of_lt insideB, same row inside column small]

theorem ext_cells {a b : BitMatrix} (sizes : a.size = b.size) (same : a.cells = b.cells) : a = b := by
  apply ext_isSet sizes
  intro row inside column small
  have member := Finset.ext_iff.mp same (row, column)
  simp only [mem_cells, small, true_and] at member
  exact Bool.eq_iff_iff.mpr member

theorem card_columns (row : UInt64) :
    (Row.columns row).length = ((Finset.range 64).filter fun c => Row.isSet row c).card := by
  rw [← List.toFinset_card_of_nodup (Row.nodup_columns row)]
  congr 1
  ext column
  simp only [List.mem_toFinset, Row.mem_columns, Finset.mem_filter, Finset.mem_range]

theorem count_eq_sum (m : BitMatrix) :
    m.count = ∑ row ∈ Finset.range m.size, (Row.columns (m.getD row 0)).length := by
  have fold (rows : List UInt64) (total : Nat) :
      rows.foldl (fun total row => total + (Row.columns row).length) total =
        total + (rows.map fun row => (Row.columns row).length).sum := by
    induction rows generalizing total with
    | nil => rfl
    | cons row rest ih =>
      simp only [List.foldl_cons, ih, List.map_cons, List.sum_cons]
      omega
  rw [count, ← Array.foldl_toList, fold, Nat.zero_add, Finset.sum_range, ← List.sum_ofFn]
  congr 1
  apply List.ext_getElem
  · simp
  · intro row inside _
    simp

/-- Counting word by word counts each cell once. -/
theorem count_eq_card (m : BitMatrix) : m.count = m.cells.card := by
  rw [count_eq_sum, cells, Finset.card_filter, Finset.sum_product]
  apply Finset.sum_congr rfl
  intro row _
  rw [card_columns, Finset.card_filter]
  rfl

theorem count_le (m : BitMatrix) : m.count ≤ 64 * m.size := by
  rw [count_eq_card]
  calc m.cells.card ≤ (Finset.range m.size ×ˢ Finset.range 64).card := Finset.card_filter_le _ _
    _ = 64 * m.size := by rw [Finset.card_product, Finset.card_range, Finset.card_range, Nat.mul_comm]

theorem count_mono {a b : BitMatrix} (subset : a.cells ⊆ b.cells) : a.count ≤ b.count := by
  rw [count_eq_card, count_eq_card]
  exact Finset.card_le_card subset

theorem getD_modify (change : UInt64 → UInt64) {index : Nat} (inside : index < m.size) :
    Array.getD (Array.modify m index change) row 0 =
      if row = index then change (m.getD row 0) else m.getD row 0 := by
  by_cases here : row = index
  · subst here
    simp [inside, Array.getElem_modify_self]
  · by_cases bound : row < m.size
    · simp [here, bound, Array.getElem_modify, Ne.symm here]
    · simp [here, bound]

@[simp] theorem size_orRow (index : Nat) (word : UInt64) : (m.orRow index word).size = m.size :=
  Array.size_modify

@[simp] theorem size_flip (pair : Pair) : (m.flip pair).size = m.size := Array.size_modify

theorem mem_cells_orRow {index : Nat} {word : UInt64} (inside : index < m.size) :
    (row, column) ∈ (m.orRow index word).cells ↔
      (row, column) ∈ m.cells ∨ row = index ∧ column < 64 ∧ Row.isSet word column = true := by
  simp only [mem_cells, isSet, orRow, getD_modify _ inside]
  by_cases small : column < 64
  · by_cases here : row = index
    · simp [here, small, Row.isSet_or]
    · simp [here]
  · simp [small]

theorem isSet_flip {pair : Pair} (inside : pair.row < m.size) (small : column < 64) :
    (m.flip pair).isSet row column =
      (m.isSet row column ^^ decide ((row, column) = pair.cell)) := by
  rw [isSet, flip, getD_modify _ inside]
  by_cases here : row = pair.row
  · rw [if_pos here, Row.isSet_xor _ _ small, Row.isSet_single small pair.column_lt]
    simp [here, isSet, Pair.cell]
  · rw [if_neg here]
    simp [here, isSet, Pair.cell]

theorem size_foldl_flip (pairs : List Pair) (m : BitMatrix) :
    (pairs.foldl flip m).size = m.size := by
  induction pairs generalizing m with
  | nil => rfl
  | cons pair rest ih => rw [List.foldl_cons, ih, size_flip]

/-- Distinct pairs invert exactly the cells they name. -/
theorem isSet_foldl_flip {pairs : List Pair} (distinct : pairs.Nodup)
    (inside : ∀ pair ∈ pairs, pair.row < m.size) (small : column < 64) :
    (pairs.foldl flip m).isSet row column =
      (m.isSet row column ^^ decide (∃ pair ∈ pairs, pair.cell = (row, column))) := by
  induction pairs generalizing m with
  | nil => simp
  | cons pair rest ih =>
    obtain ⟨absent, distinct⟩ := List.nodup_cons.mp distinct
    have first := inside pair (by simp)
    have others : ∀ other ∈ rest, other.row < (m.flip pair).size := by
      intro other member
      rw [size_flip]
      exact inside other (by simp [member])
    rw [List.foldl_cons, ih distinct others, isSet_flip first small, Bool.xor_assoc]
    congr 1
    by_cases here : (row, column) = pair.cell
    · have nowhere : ¬∃ other ∈ rest, other.cell = (row, column) := by
        rintro ⟨other, member, same⟩
        have equal := Pair.cell_injective (same.trans here)
        exact absent (equal ▸ member)
      simp [here] at nowhere ⊢
      exact fun other member same => nowhere other member same
    · simp [here, Ne.symm here]

theorem size_orFolded (rows : Array UInt64) (m : BitMatrix) : (m.orFolded rows).size = m.size := by
  rw [orFolded]
  generalize rows.toList.zipIdx = indexed
  induction indexed generalizing m with
  | nil => rfl
  | cons entry rest ih => rw [List.foldl_cons, ih, size_orRow]

/-- Row after row is added where the remainder of its index points. -/
theorem mem_cells_orRows (words : List UInt64) (start : Nat) (some_row : 0 < m.size) :
    (row, column) ∈ BitMatrix.cells ((words.zipIdx start).foldl
        (fun m entry => m.orRow (entry.2 % m.size) entry.1) m) ↔
      (row, column) ∈ m.cells ∨ ∃ source, (start + source) % m.size = row ∧
        column < 64 ∧ Row.isSet (words.getD source 0) column = true := by
  induction words generalizing start m with
  | nil => simp
  | cons word rest ih =>
    rw [List.zipIdx_cons, List.foldl_cons, ih (start + 1) (by simpa using some_row),
      mem_cells_orRow (Nat.mod_lt _ some_row), size_orRow, or_assoc]
    apply or_congr_right
    constructor
    · rintro (⟨same, small, set⟩ | ⟨source, same, small, set⟩)
      · exact ⟨0, by simpa using same.symm, small, by simpa using set⟩
      · exact ⟨source + 1, by rw [← same]; congr 1; omega, small, by simpa using set⟩
    · rintro ⟨source, same, small, set⟩
      cases source with
      | zero => exact Or.inl ⟨by simpa using same.symm, small, by simpa using set⟩
      | succ source =>
        exact Or.inr ⟨source, by rw [← same]; congr 1; omega, small, by simpa using set⟩

theorem mem_cells_orFolded {rows : BitMatrix} (some_row : 0 < m.size) :
    (row, column) ∈ (m.orFolded rows).cells ↔
      (row, column) ∈ m.cells ∨ ∃ source, source % m.size = row ∧ (source, column) ∈ rows.cells := by
  refine (mem_cells_orRows rows.toList 0 some_row).trans (or_congr_right (exists_congr fun source => ?_))
  rw [Nat.zero_add, mem_cells, isSet, List.getD_eq_getElem?_getD, Array.getD_eq_getD_getElem?,
    Array.getElem?_toList]

theorem size_orPairs (pairs : List Pair) (m : BitMatrix) : (m.orPairs pairs).size = m.size := by
  rw [orPairs]
  induction pairs generalizing m with
  | nil => rfl
  | cons pair rest ih => rw [List.foldl_cons, ih, size_orRow]

theorem mem_cells_orPairs {pairs : List Pair} (some_row : 0 < m.size) :
    (row, column) ∈ (m.orPairs pairs).cells ↔
      (row, column) ∈ m.cells ∨ ∃ pair ∈ pairs, pair.row % m.size = row ∧ pair.column = column := by
  rw [orPairs]
  induction pairs generalizing m with
  | nil => simp
  | cons pair rest ih =>
    rw [List.foldl_cons, ih (by simpa using some_row), mem_cells_orRow (Nat.mod_lt _ some_row),
      size_orRow, or_assoc]
    apply or_congr_right
    have single : column < 64 ∧ Row.isSet (Row.single pair.column) column = true ↔
        pair.column = column := by
      constructor
      · rintro ⟨small, set⟩
        rw [Row.isSet_single small pair.column_lt, decide_eq_true_eq] at set
        exact set.symm
      · rintro rfl
        exact ⟨pair.column_lt, by simp [Row.isSet_single pair.column_lt pair.column_lt]⟩
    rw [single]
    simp only [List.mem_cons, exists_eq_or_imp, eq_comm (a := row)]

@[simp] theorem cells_zero (p : Precision) : (zero p).cells = ∅ := by
  apply Finset.eq_empty_of_forall_notMem
  rintro ⟨row, column⟩ member
  have set := (mem_cells.mp member).2
  have inside := row_lt_of_mem_cells member
  rw [isSet_of_lt inside] at set
  simp [zero] at set

@[simp] theorem size_zero (p : Precision) : (zero p).size = p.rows := Array.size_replicate

theorem mem_pairs {pair : Pair} (rows : m.size ≤ 2 ^ 26) : pair ∈ m.pairs ↔ pair.cell ∈ m.cells := by
  simp only [pairs, List.mem_flatMap, List.mem_map, Prod.exists, List.mem_zipIdx_iff_getElem?,
    Array.getElem?_toList]
  constructor
  · rintro ⟨word, index, found, column, listed, rfl⟩
    obtain ⟨inside, rfl⟩ := Array.getElem?_eq_some_iff.mp found
    obtain ⟨small, set⟩ := Row.mem_columns.mp listed
    rw [Pair.cell, Pair.row_pack (by omega) small, Pair.column_pack (by omega) small]
    exact mem_cells.mpr ⟨small, by rw [isSet_of_lt inside, set]⟩
  · intro member
    have inside := row_lt_of_mem_cells member
    obtain ⟨small, set⟩ := mem_cells.mp member
    rw [isSet_of_lt inside] at set
    exact ⟨_, pair.row, Array.getElem?_eq_getElem inside, pair.column,
      Row.mem_columns.mpr ⟨small, set⟩, pair.pack_row_column⟩

theorem nodup_pairs (rows : m.size ≤ 2 ^ 26) : m.pairs.Nodup := by
  have index_lt {word : UInt64} {index : Nat} (listed : (word, index) ∈ m.toList.zipIdx) :
      index < 2 ^ 26 := by
    rw [List.mem_zipIdx_iff_getElem?, Array.getElem?_toList] at listed
    exact (Array.getElem?_eq_some_iff.mp listed).1.trans_le rows
  have indices : m.toList.zipIdx.Pairwise fun a b => a.2 ≠ b.2 := by
    apply List.pairwise_map.mp
    rw [List.zipIdx_map_snd]
    exact List.nodup_range'
  rw [pairs, List.nodup_flatMap]
  constructor
  · rintro ⟨word, index⟩ listed
    apply (Row.nodup_columns word).map_on
    intro a memberA b memberB same
    have columns := congrArg Pair.column same
    rwa [Pair.column_pack (index_lt listed) (Row.mem_columns.mp memberA).1,
      Pair.column_pack (index_lt listed) (Row.mem_columns.mp memberB).1] at columns
  · refine indices.imp_of_mem ?_
    rintro ⟨wordA, a⟩ ⟨wordB, b⟩ listedA listedB different pair inA inB
    obtain ⟨columnA, memberA, rfl⟩ := List.mem_map.mp inA
    obtain ⟨columnB, memberB, same⟩ := List.mem_map.mp inB
    have rows := congrArg Pair.row same
    rw [Pair.row_pack (index_lt listedB) (Row.mem_columns.mp memberB).1,
      Pair.row_pack (index_lt listedA) (Row.mem_columns.mp memberA).1] at rows
    exact different rows.symm

theorem length_pairs_le (rows : m.size ≤ 2 ^ 26) : m.pairs.length ≤ m.count := by
  have distinct := (nodup_pairs rows).map Pair.cell_injective
  rw [count_eq_card, ← List.length_map Pair.cell, ← List.toFinset_card_of_nodup distinct]
  apply Finset.card_le_card
  intro cell member
  obtain ⟨pair, listed, rfl⟩ := List.mem_map.mp (List.mem_toFinset.mp member)
  exact (mem_pairs rows).mp listed

theorem cells_eq_of_pairs {p : Precision} {cells : Finset (Nat × Nat)} (size : m.size = p.rows)
    (inside : ∀ cell ∈ cells, cell.1 < p.rows ∧ cell.2 < 64)
    (same : ∀ pair : Pair, pair.row < p.rows → (pair.cell ∈ m.cells ↔ pair.cell ∈ cells)) :
    m.cells = cells := by
  ext ⟨row, column⟩
  by_cases bounds : row < p.rows ∧ column < 64
  · obtain ⟨pair, rfl, rfl⟩ := Pair.exists_cell (bounds.1.trans_le p.rows_le) bounds.2
    exact same pair bounds.1
  · refine iff_of_false (fun member => bounds ⟨?_, (mem_cells.mp member).1⟩)
      (fun member => bounds (inside _ member))
    exact size ▸ row_lt_of_mem_cells member

end BitMatrix
end DistinctCount
