import DistinctCount.Proofs.Layout
import Mathlib.Data.Bool.AllAny

/-! Counting without expanding the matrix. The table inverts cells of a matrix that is full
before the window and clear behind it, so each of its pairs takes a cell away or adds one.
Beside a window the cells fall into three parts: those before it that the table does not
name, those of the window, and those behind it that the table names. -/
namespace DistinctCount

namespace BitMatrix

variable {m : BitMatrix} {pair : Pair}

theorem cells_flip (inside : pair.row < m.size) :
    (m.flip pair).cells = if m.isSet pair.row pair.column then m.cells.erase pair.cell
      else insert pair.cell m.cells := by
  ext ⟨row, column⟩
  have here : (row, column) = pair.cell → (row = pair.row ∧ column = pair.column) := Prod.mk.inj
  by_cases small : column < 64
  · by_cases same : (row, column) = pair.cell
    · obtain ⟨rfl, rfl⟩ := here same
      rw [mem_cells, isSet_flip inside small]
      split <;> simp_all
    · rw [mem_cells, isSet_flip inside small]
      split <;> simp_all [mem_cells]
  · have other : (row, column) ≠ pair.cell := fun same => small ((here same).2 ▸ pair.column_lt)
    split <;> simp [mem_cells, small, other]

theorem count_flip_set (inside : pair.row < m.size) (set : m.isSet pair.row pair.column = true) :
    (m.flip pair).count + 1 = m.count := by
  rw [count_eq_card, count_eq_card, cells_flip inside, if_pos set,
    Finset.card_erase_add_one (cell_mem_cells.mpr set)]

theorem count_flip_clear (inside : pair.row < m.size) (clear : m.isSet pair.row pair.column ≠ true) :
    (m.flip pair).count = m.count + 1 := by
  rw [count_eq_card, count_eq_card, cells_flip inside, if_neg clear,
    Finset.card_insert_of_notMem (mt cell_mem_cells.mp clear)]

/-- Distinct pairs are inverted one by one, and no inversion changes what a later one finds:
each pair that names a set cell takes one away, and each other pair adds one. -/
theorem count_foldl_flip {pairs : List Pair} {set : Pair → Bool} (distinct : pairs.Nodup)
    (inside : ∀ pair ∈ pairs, pair.row < m.size)
    (found : ∀ pair ∈ pairs, m.isSet pair.row pair.column = set pair) :
    (pairs.foldl flip m).count + pairs.countP set = m.count + pairs.countP (fun pair => !set pair) := by
  induction pairs generalizing m with
  | nil => rfl
  | cons pair rest ih =>
    obtain ⟨absent, distinct⟩ := List.nodup_cons.mp distinct
    obtain ⟨first, inside⟩ := List.forall_mem_cons.mp inside
    obtain ⟨here, found⟩ := List.forall_mem_cons.mp found
    have kept : ∀ other ∈ rest, (m.flip pair).isSet other.row other.column = set other := by
      intro other member
      have apart : (other.row, other.column) ≠ pair.cell := by
        intro same
        exact absent (Pair.cell_injective same ▸ member)
      rw [isSet_flip first other.column_lt, decide_eq_false apart, Bool.xor_false, found other member]
    have run := ih distinct (by simpa using inside) kept
    rw [List.foldl_cons]
    cases found : set pair with
    | false =>
      have step := count_flip_clear first (by simp [here, found])
      rw [List.countP_cons_of_neg (by simp [found]), List.countP_cons_of_pos (by simp [found])]
      omega
    | true =>
      have step := count_flip_set first (by simp [here, found])
      rw [List.countP_cons_of_pos found, List.countP_cons_of_neg (by simp [found])]
      omega

end BitMatrix

namespace Sketch

open Row

/-- The columns of a row beside a window: those before it and those of its byte, none of
which is lost where the window ends before column 64. -/
theorem filter_windowRow (byte : UInt8) {offset : Nat} (within : offset ≤ 56) :
    (Finset.range 64).filter
        (fun column => isSet (below offset ||| byte.toUInt64 <<< UInt64.ofNat offset) column) =
      Finset.range offset ∪ ((Finset.range 64).filter
        (fun column => isSet byte.toUInt64 column)).map (addRightEmbedding offset) := by
  ext column
  simp only [Finset.mem_filter, Finset.mem_range, Finset.mem_union, Finset.mem_map,
    addRightEmbedding_apply]
  constructor
  · rintro ⟨small, set⟩
    rw [isSet_windowRow _ small (by omega), Bool.or_eq_true, Bool.and_eq_true, decide_eq_true_eq,
      decide_eq_true_eq] at set
    refine set.imp_right fun ⟨after, set⟩ => ⟨column - offset, ⟨by omega, ?_⟩, by omega⟩
    rwa [isSet_eq_testBit _ (by omega), UInt8.toNat_toUInt64]
  · rintro (before | ⟨bit, ⟨small, set⟩, rfl⟩)
    · refine ⟨by omega, ?_⟩
      rw [isSet_windowRow _ (by omega) (by omega)]
      simp [before]
    · rw [isSet_eq_testBit _ small, UInt8.toNat_toUInt64] at set
      have near := lt_of_testBit_byte set
      refine ⟨by omega, ?_⟩
      rw [isSet_windowRow _ (by omega) (by omega)]
      simp [set]

theorem length_columns_windowRow (byte : UInt8) {offset : Nat} (within : offset ≤ 56) :
    (columns (below offset ||| byte.toUInt64 <<< UInt64.ofNat offset)).length =
      offset + (columns byte.toUInt64).length := by
  have apart : Disjoint (Finset.range offset) (((Finset.range 64).filter
      (fun column => isSet byte.toUInt64 column)).map (addRightEmbedding offset)) := by
    rw [Finset.disjoint_left]
    intro column before after
    obtain ⟨bit, _, rfl⟩ := Finset.mem_map.mp after
    rw [Finset.mem_range, addRightEmbedding_apply] at before
    omega
  rw [BitMatrix.card_columns, BitMatrix.card_columns, filter_windowRow byte within,
    Finset.card_union_of_disjoint apart, Finset.card_range, Finset.card_map]

variable {s : Sketch}

def gaps (s : Sketch) : List Pair := s.table.items.filter fun pair => pair.column < s.offset

def strays (s : Sketch) : List Pair := s.table.items.filter fun pair => s.offset ≤ pair.column

def windowCells (s : Sketch) : Finset (Nat × Nat) :=
  BitMatrix.cells (s.window.map fun byte => byte.toUInt64 <<< UInt64.ofNat s.offset)

theorem mem_gaps {pair : Pair} : pair ∈ s.gaps ↔ pair ∈ s.table.items ∧ pair.column < s.offset := by
  simp [gaps]

theorem mem_strays {pair : Pair} : pair ∈ s.strays ↔ pair ∈ s.table.items ∧ s.offset ≤ pair.column := by
  simp [strays]

namespace Layout

theorem cells_windowed (layout : s.Layout) (allocated : s.window ≠ #[]) :
    s.bitMatrix.cells =
      ((Finset.range s.precision.rows ×ˢ Finset.range s.offset) \ (s.gaps.map Pair.cell).toFinset) ∪
        (s.windowCells ∪ (s.strays.map Pair.cell).toFinset) := by
  have size := layout.size_window allocated
  have within := layout.offset_lt
  apply BitMatrix.cells_eq_of_pairs layout.size_bitMatrix
  · rintro ⟨row, column⟩ member
    simp only [Finset.mem_union, Finset.mem_sdiff, Finset.mem_product, Finset.mem_range] at member
    rcases member with ⟨⟨inside, before⟩, _⟩ | window | stray
    · exact ⟨inside, before.trans within⟩
    · obtain ⟨small, _, set⟩ := (mem_windowCells within).mp window
      exact ⟨size ▸ windowBit_row_lt set, small⟩
    · obtain ⟨pair, listed, same⟩ := List.mem_map.mp (List.mem_toFinset.mp stray)
      obtain ⟨rfl, rfl⟩ := Prod.mk.inj same
      exact ⟨layout.row_lt (mem_strays.mp listed).1, pair.column_lt⟩
  · intro pair inside
    have before : pair.cell ∈ Finset.range s.precision.rows ×ˢ Finset.range s.offset ↔
        pair.column < s.offset := by
      simp [Pair.cell, inside]
    have window : pair.cell ∈ s.windowCells ↔
        s.offset ≤ pair.column ∧ windowBit s.window pair.row (pair.column - s.offset) = true := by
      rw [Pair.cell, windowCells, mem_windowCells within]
      exact and_iff_right pair.column_lt
    rw [Finset.mem_union, Finset.mem_sdiff, Finset.mem_union, cell_mem_itemCells, cell_mem_itemCells,
      mem_gaps, mem_strays, before, window]
    by_cases early : pair.column < s.offset
    · rw [layout.mem_cells_before inside early]
      simp [early, Nat.not_le.mpr early]
    · by_cases near : pair.column < s.offset + 8
      · have absent : pair ∉ s.table.items := by
          intro member
          have := layout.outside allocated pair member
          omega
        rw [BitMatrix.cell_mem_cells, layout.isSet_inside allocated inside (by omega) near]
        simp [early, absent, Nat.le_of_not_lt early]
      · have clear : windowBit s.window pair.row (pair.column - s.offset) ≠ true := by
          intro set
          have := windowBit_lt set
          omega
        rw [layout.mem_cells_listed inside (Or.inr (by omega))]
        simp [early, clear, Nat.le_of_not_lt early]

/-- With the window at column 0 the cells are those of the window and of the table. -/
theorem cells_pinned (layout : s.Layout) (allocated : s.window ≠ #[]) (start : s.offset = 0) :
    s.bitMatrix.cells =
      BitMatrix.cells (s.window.map fun byte => byte.toUInt64 <<< UInt64.ofNat s.offset) ∪
        (s.table.items.map Pair.cell).toFinset := by
  have strays : s.strays = s.table.items := by simp [Sketch.strays, start]
  rw [layout.cells_windowed allocated, strays, windowCells]
  simp [start]

end Layout

theorem card_itemCells {items : List Pair} (distinct : items.Nodup) :
    (items.map Pair.cell).toFinset.card = items.length := by
  rw [List.toFinset_card_of_nodup (distinct.map Pair.cell_injective), List.length_map]

/-- What the count of a counter relies on. The parts of the counter need not fit the number
of its coupons. -/
structure Tallyable (s : Sketch) : Prop where
  window : s.window = #[] ∧ s.offset = 0 ∨ s.window.size = s.precision.rows ∧ s.offset ≤ 56
  numItems : s.table.numItems = s.table.items.length
  distinct : s.table.items.Nodup
  row_lt : ∀ pair ∈ s.table.items, pair.row < s.precision.rows
  outside : s.window ≠ #[] → ∀ pair ∈ s.table.items,
    pair.column < s.offset ∨ s.offset + 8 ≤ pair.column

/-- Where there is no window, the table starts from a matrix without cells. -/
theorem count_windowMatrix_sparse (none : s.window = #[]) (start : s.offset = 0) :
    s.windowMatrix.count = 0 := by
  have clear : Row.below 0 = 0 := by decide
  have zero : s.windowMatrix = BitMatrix.zero s.precision := by
    rw [windowMatrix, if_pos (by simp [none]), start, clear]
    rfl
  rw [zero, BitMatrix.count_eq_card, BitMatrix.cells_zero, Finset.card_empty]

theorem isEmpty_of_size (size : s.window.size = s.precision.rows) : s.window.isEmpty = false := by
  rw [Bool.eq_false_iff, ne_eq, Array.isEmpty_iff]
  exact window_ne_empty size

/-- Before the table corrects it, the matrix has every cell before the window and the bits
of the window. -/
theorem count_windowMatrix (size : s.window.size = s.precision.rows) (within : s.offset ≤ 56) :
    s.windowMatrix.count = s.precision.rows * s.offset +
      s.window.foldl (fun total byte => total + (Row.columns byte.toUInt64).length) 0 := by
  have allocated := isEmpty_of_size size
  have bytes : BitMatrix.count (s.window.map UInt8.toUInt64) =
      s.window.foldl (fun total byte => total + (Row.columns byte.toUInt64).length) 0 := by
    rw [BitMatrix.count, Array.foldl_map]
  rw [← bytes, BitMatrix.count_eq_sum, BitMatrix.count_eq_sum,
    size_windowMatrix (Or.inr size), Array.size_map, size]
  calc ∑ row ∈ Finset.range s.precision.rows, (Row.columns (s.windowMatrix.getD row 0)).length
      = ∑ row ∈ Finset.range s.precision.rows, (s.offset +
          (Row.columns ((s.window.map UInt8.toUInt64).getD row 0)).length) := by
        apply Finset.sum_congr rfl
        intro row member
        have inside : row < s.window.size := size ▸ Finset.mem_range.mp member
        have word : s.windowMatrix.getD row 0 =
            Row.below s.offset ||| s.window[row].toUInt64 <<< UInt64.ofNat s.offset := by
          simp [windowMatrix, allocated, inside]
        have byte : (s.window.map UInt8.toUInt64).getD row 0 = s.window[row].toUInt64 := by
          simp [inside]
        rw [word, byte, length_columns_windowRow _ within]
    _ = _ := by
        rw [Finset.sum_add_distrib, Finset.sum_const, Finset.card_range, smul_eq_mul]

namespace Tallyable

theorem framed (tallyable : s.Tallyable) :
    s.window = #[] ∧ s.offset = 0 ∨ s.window.size = s.precision.rows :=
  tallyable.window.imp_right And.left

theorem offset_le (tallyable : s.Tallyable) : s.offset ≤ 56 := by
  rcases tallyable.window with ⟨_, start⟩ | ⟨_, within⟩ <;> omega

theorem gaps_le (tallyable : s.Tallyable) : s.gaps.length ≤ s.precision.rows * s.offset := by
  have subset : (s.gaps.map Pair.cell).toFinset ⊆
      Finset.range s.precision.rows ×ˢ Finset.range s.offset := by
    intro cell member
    obtain ⟨pair, listed, rfl⟩ := List.mem_map.mp (List.mem_toFinset.mp member)
    obtain ⟨stored, before⟩ := mem_gaps.mp listed
    simp [Pair.cell, tallyable.row_lt pair stored, before]
  calc s.gaps.length = (s.gaps.map Pair.cell).toFinset.card :=
        (card_itemCells (tallyable.distinct.filter _)).symm
    _ ≤ (Finset.range s.precision.rows ×ˢ Finset.range s.offset).card := Finset.card_le_card subset
    _ = s.precision.rows * s.offset := by
        rw [Finset.card_product, Finset.card_range, Finset.card_range]

/-- The table names set cells before the window and clear cells behind it. -/
theorem isSet_windowMatrix (tallyable : s.Tallyable) {pair : Pair} (member : pair ∈ s.table.items) :
    s.windowMatrix.isSet pair.row pair.column = decide (pair.column < s.offset) := by
  have offset_le := tallyable.offset_le
  rw [Sketch.isSet_windowMatrix tallyable.framed (by omega) (tallyable.row_lt pair member)
    pair.column_lt]
  have clear : (decide (s.offset ≤ pair.column) &&
      windowBit s.window pair.row (pair.column - s.offset)) = false := by
    rw [Bool.and_eq_false_imp]
    intro after
    rw [decide_eq_true_eq] at after
    rw [Bool.eq_false_iff]
    intro set
    have allocated : s.window ≠ #[] := by
      rintro none
      simp [windowBit, none] at set
    have := windowBit_lt set
    have := tallyable.outside allocated pair member
    omega
  rw [clear, Bool.or_false]

/-- The count is that of the matrix: each pair inverts one cell. -/
theorem tally_eq (tallyable : s.Tallyable) : s.tally = s.bitMatrix.count := by
  have flips := BitMatrix.count_foldl_flip tallyable.distinct
    (by rw [size_windowMatrix tallyable.framed]; exact tallyable.row_lt)
    (fun pair => tallyable.isSet_windowMatrix)
  have gaps_le := tallyable.gaps_le
  have parts := @List.length_eq_countP_add_countP _ (fun pair => decide (pair.column < s.offset))
    s.table.items
  simp only [decide_eq_true_eq, ← decide_not] at parts flips
  rw [← bitMatrix] at flips
  rw [gaps, ← List.countP_eq_length_filter] at gaps_le
  rw [tally, tallyable.numItems]
  rcases tallyable.window with ⟨none, start⟩ | ⟨size, within⟩
  · rw [count_windowMatrix_sparse none start] at flips
    have none_before : s.precision.rows * s.offset = 0 := by rw [start, Nat.mul_zero]
    rw [if_pos (by simp [none])]
    omega
  · rw [count_windowMatrix size within] at flips
    rw [if_neg (by rw [isEmpty_of_size size]; decide)]
    dsimp only
    omega

end Tallyable

theorem Layout.tallyable (layout : s.Layout) (within : s.offset ≤ 56) : s.Tallyable where
  window := layout.window.imp_right fun size => ⟨size, within⟩
  numItems := layout.table.numItems
  distinct := layout.table.distinct
  row_lt := fun _ => layout.row_lt
  outside := layout.outside

/-- The count of a counter, whatever the number of coupons that it claims, is the number of
the set cells of its matrix. The matrix exists, and both subtractions of the count have the
result that they have in the whole numbers: no more pairs name cells before the window than
there are such cells, or pairs. -/
theorem tally_eq_card_cells (tallyable : s.Tallyable) :
    s.bitMatrix? = .ok s.bitMatrix ∧ s.tally = s.bitMatrix.cells.card ∧
      s.table.items.countP (fun pair => pair.column < s.offset) ≤ s.precision.rows * s.offset ∧
      s.table.items.countP (fun pair => pair.column < s.offset) ≤ s.table.numItems := by
  refine ⟨?_, ?_, ?_, ?_⟩
  · rw [bitMatrix?, if_pos]
    simpa using tallyable.row_lt
  · rw [tallyable.tally_eq, BitMatrix.count_eq_card]
  · rw [List.countP_eq_length_filter]
    exact tallyable.gaps_le
  · rw [tallyable.numItems]
    exact List.countP_le_length

/-- Thirty-two rows with the window at column 55, one gap before it and one cell behind it. -/
def surveyed : Sketch where
  precision := Precision.thirtyTwo
  seed := 0
  firstInteresting := 0
  numCoupons := 0
  table := ⟨2, 11, 2, #[Pair.pack 3 0, Pair.vacant, Pair.vacant, Pair.pack 31 63]⟩
  offset := 55
  window := Array.replicate 32 0x81
  merged := true
  hipState := Hip.start Precision.thirtyTwo

theorem tally_eq_card_cells_last_column :
    surveyed.Tallyable ∧ surveyed.bitMatrix.cells.card = 1824 := by
  have tallyable : surveyed.Tallyable :=
    { window := Or.inr (by decide +kernel)
      numItems := by decide +kernel
      distinct := by decide +kernel
      row_lt := List.all_iff_forall_prop.mp (by decide +kernel)
      outside := fun _ => List.all_iff_forall_prop.mp (by decide +kernel) }
  refine ⟨tallyable, ?_⟩
  rw [← (tally_eq_card_cells tallyable).2.1]
  decide +kernel

end Sketch
end DistinctCount
