import DistinctCount.Proofs.MatrixCells
import DistinctCount.Proofs.TableSet
import Mathlib.Tactic.Positivity

/-! The layout of a counter as a matrix. Before the window a cell is set unless the
table names it, in the window the byte of its row says whether it is, and behind the
window it is set where the table names it. -/
namespace DistinctCount

theorem windowOffset_lt_iff {p : Precision} {coupons offset : Nat} :
    windowOffset p coupons < offset + 1 ↔ 8 * coupons < (27 + 8 * offset) * p.rows := by
  have positive := p.rows_pos
  have expand : (27 + 8 * offset) * p.rows = (offset + 1) * (8 * p.rows) + 19 * p.rows := by ring
  have some_rows : 0 < (offset + 1) * (8 * p.rows) := by positivity
  rw [windowOffset, Nat.div_lt_iff_lt_mul (by omega), expand]
  omega

/-- Before 27K/8 coupons the window stands at column 0. -/
theorem windowOffset_eq_zero {p : Precision} {coupons : Nat} (few : 8 * coupons < 27 * p.rows) :
    windowOffset p coupons = 0 := by
  have start : windowOffset p coupons < 0 + 1 := windowOffset_lt_iff.mpr (by omega)
  omega

theorem windowOffset_mono (p : Precision) {few many : Nat} (less : few ≤ many) :
    windowOffset p few ≤ windowOffset p many :=
  Nat.div_le_div_right (by omega)

theorem windowOffset_succ_le (p : Precision) (coupons : Nat) :
    windowOffset p (coupons + 1) ≤ windowOffset p coupons + 1 := by
  have positive := p.rows_pos
  have before : windowOffset p coupons < windowOffset p coupons + 1 := Nat.lt_succ_self _
  have after : windowOffset p (coupons + 1) < windowOffset p coupons + 1 + 1 := by
    rw [windowOffset_lt_iff] at before ⊢
    have expand : (27 + 8 * (windowOffset p coupons + 1)) * p.rows =
        (27 + 8 * windowOffset p coupons) * p.rows + 8 * p.rows := by ring
    omega
  omega

/-- The five layouts by the number of coupons. -/
theorem ofCount_cases (p : Precision) (coupons : Nat) :
    coupons = 0 ∧ Flavor.ofCount p coupons = .empty ∨
    0 < coupons ∧ 32 * coupons < 3 * p.rows ∧ Flavor.ofCount p coupons = .sparse ∨
    3 * p.rows ≤ 32 * coupons ∧ 2 * coupons < p.rows ∧ Flavor.ofCount p coupons = .hybrid ∨
    p.rows ≤ 2 * coupons ∧ 8 * coupons < 27 * p.rows ∧ Flavor.ofCount p coupons = .pinned ∨
    27 * p.rows ≤ 8 * coupons ∧ Flavor.ofCount p coupons = .sliding := by
  have positive := p.rows_pos
  unfold Flavor.ofCount
  split_ifs <;> simp <;> omega

theorem windowed_iff {p : Precision} {coupons : Nat} :
    (Flavor.ofCount p coupons).windowed = true ↔ 3 * p.rows ≤ 32 * coupons := by
  have positive := p.rows_pos
  rcases ofCount_cases p coupons with ⟨_, flavor⟩ | ⟨_, _, flavor⟩ | ⟨_, _, flavor⟩ | ⟨_, _, flavor⟩ |
    ⟨_, flavor⟩ <;> rw [flavor] <;> simp only [Flavor.windowed, true_iff, Bool.false_eq_true, false_iff] <;>
    omega

namespace PairTable

variable {p : Precision} {t after : PairTable} {pairs : List Pair}

theorem insertAll_fresh (wf : t.WellFormed) (width : t.validBits = p.pairBits) (none : t.items = [])
    (distinct : pairs.Nodup) (inside : ∀ pair ∈ pairs, pair.InRange p)
    (run : t.insertAll pairs = .ok after) :
    after.WellFormed ∧ after.validBits = p.pairBits ∧ after.items.Perm pairs := by
  obtain ⟨wellFormed, same, perm⟩ := insertAll_spec wf (by simpa [none] using distinct)
    (fun pair member => (inside pair member).2)
    (fun pair member => width ▸ Pair.row_lt_rows_iff.mp (inside pair member).1) run
  rw [none, List.append_nil] at perm
  exact ⟨wellFormed, same.trans width, perm⟩

theorem insertAll_fresh_total (wf : t.WellFormed) (width : t.validBits = p.pairBits)
    (none : t.items = []) (distinct : pairs.Nodup) (inside : ∀ pair ∈ pairs, pair.InRange p)
    (few : pairs.length ≤ capacity p.pairBits) : ∃ after, t.insertAll pairs = .ok after := by
  have start : t.numItems = 0 := by rw [wf.numItems, none, List.length_nil]
  exact insertAll_total wf (by simpa [none] using distinct)
    (fun pair member => (inside pair member).2)
    (fun pair member => width ▸ Pair.row_lt_rows_iff.mp (inside pair member).1)
    (by rwa [start, Nat.zero_add, width])

end PairTable

namespace Sketch

/-- The parts of a counter fit each other: the table is well-formed, the window has a
byte for each row or is not there, and the table names no cell of the window. -/
structure Layout (s : Sketch) : Prop where
  table : s.table.WellFormed
  width : s.table.validBits = s.precision.pairBits
  offset_lt : s.offset < 64
  window : s.window = #[] ∧ s.offset = 0 ∨ s.window.size = s.precision.rows
  outside : s.window ≠ #[] → ∀ pair ∈ s.table.items,
    pair.column < s.offset ∨ s.offset + 8 ≤ pair.column

/-- The invariant of a counter. Its layout is the one that the number of its coupons
asks for, the coupons are the cells of its matrix, and no column that is passed over
lies behind the start of the window. -/
structure Valid (s : Sketch) : Prop extends Layout s where
  offset_eq : s.offset = windowOffset s.precision s.numCoupons
  windowed : s.flavor.windowed = !s.window.isEmpty
  interesting : s.firstInteresting ≤ s.offset
  count : s.bitMatrix.count = s.numCoupons

def windowBit (window : Array UInt8) (row bit : Nat) : Bool := (window.getD row 0).toNat.testBit bit

variable {s : Sketch} {row column : Nat} {pair : Pair}

theorem windowBit_lt {window : Array UInt8} {bit : Nat} (set : windowBit window row bit = true) :
    bit < 8 :=
  lt_of_testBit_byte set

/-- The cells of a window that stands at a column. -/
theorem mem_windowCells {window : Array UInt8} {offset : Nat} (within : offset < 64) :
    (row, column) ∈ BitMatrix.cells (window.map fun byte => byte.toUInt64 <<< UInt64.ofNat offset) ↔
      column < 64 ∧ offset ≤ column ∧ windowBit window row (column - offset) = true := by
  have word : (window.map fun byte => byte.toUInt64 <<< UInt64.ofNat offset).getD row 0 =
      (window.getD row 0).toUInt64 <<< UInt64.ofNat offset := by
    by_cases inside : row < window.size
    · simp [inside]
    · simp [inside]
  rw [BitMatrix.mem_cells, BitMatrix.isSet, word]
  refine and_congr_right fun small => ?_
  rw [isSet_windowShift _ small within, Bool.and_eq_true, decide_eq_true_eq, windowBit]

theorem windowBit_row_lt {window : Array UInt8} {bit : Nat} (set : windowBit window row bit = true) :
    row < window.size := by
  by_contra outside
  simp [windowBit, outside] at set

theorem window_ne_empty {p : Precision} {window : Array UInt8} (size : window.size = p.rows) :
    window ≠ #[] := by
  rintro rfl
  exact p.rows_pos.ne size

theorem cell_mem_itemCells {items : List Pair} {pair : Pair} :
    pair.cell ∈ (items.map Pair.cell).toFinset ↔ pair ∈ items := by
  rw [List.mem_toFinset, List.mem_map_of_injective Pair.cell_injective]

section Window

variable (window : s.window = #[] ∧ s.offset = 0 ∨ s.window.size = s.precision.rows)

include window

theorem size_windowMatrix : s.windowMatrix.size = s.precision.rows := by
  rw [windowMatrix]
  split
  · simp
  · rename_i allocated
    rcases window with ⟨absent, _⟩ | size
    · simp [absent] at allocated
    · simpa using size

theorem isSet_windowMatrix (within : s.offset < 64) (inside : row < s.precision.rows)
    (small : column < 64) : s.windowMatrix.isSet row column =
      (decide (column < s.offset) ||
        (decide (s.offset ≤ column) && windowBit s.window row (column - s.offset))) := by
  have bound : row < s.windowMatrix.size := by rwa [size_windowMatrix window]
  rw [BitMatrix.isSet_of_lt bound, windowBit]
  by_cases empty : s.window.isEmpty
  · have none : s.window = #[] := by simpa using empty
    have word : s.windowMatrix[row] = Row.below s.offset := by simp [windowMatrix, empty]
    rw [word, Row.isSet_below small within]
    simp [none]
  · have size : s.window.size = s.precision.rows := by
      rcases window with ⟨absent, _⟩ | size
      · simp [absent] at empty
      · exact size
    have word : s.windowMatrix[row] = Row.below s.offset |||
        (s.window.getD row 0).toUInt64 <<< UInt64.ofNat s.offset := by
      simp [windowMatrix, empty, size, inside]
    rw [word, isSet_windowRow _ small within]

end Window

namespace Layout

theorem row_lt (layout : s.Layout) (member : pair ∈ s.table.items) : pair.row < s.precision.rows :=
  Pair.row_lt_rows_iff.mpr (layout.width ▸ layout.table.narrow pair member)

theorem inRange (layout : s.Layout) (member : pair ∈ s.table.items) : pair.InRange s.precision :=
  ⟨layout.row_lt member, PairTable.real_of_mem member⟩

theorem narrow (layout : s.Layout) (inside : pair.InRange s.precision) :
    pair.toNat < 2 ^ s.table.validBits :=
  layout.width ▸ Pair.row_lt_rows_iff.mp inside.1

theorem size_bitMatrix (layout : s.Layout) : s.bitMatrix.size = s.precision.rows := by
  rw [bitMatrix, BitMatrix.size_foldl_flip, size_windowMatrix layout.window]

theorem isSet_bitMatrix (layout : s.Layout) (inside : pair.row < s.precision.rows) :
    s.bitMatrix.isSet pair.row pair.column =
      ((decide (pair.column < s.offset) ||
          (decide (s.offset ≤ pair.column) && windowBit s.window pair.row (pair.column - s.offset))) ^^
        decide (pair ∈ s.table.items)) := by
  have rows : ∀ other ∈ s.table.items, other.row < s.windowMatrix.size := by
    intro other member
    rw [size_windowMatrix layout.window]
    exact layout.row_lt member
  rw [bitMatrix, BitMatrix.isSet_foldl_flip layout.table.distinct rows pair.column_lt,
    isSet_windowMatrix layout.window layout.offset_lt inside pair.column_lt]
  congr 1
  apply decide_eq_decide.mpr
  constructor
  · rintro ⟨other, member, same⟩
    exact Pair.cell_injective same ▸ member
  · intro member
    exact ⟨pair, member, rfl⟩

/-- Before the window the table names the clear cells. -/
theorem isSet_before (layout : s.Layout) (inside : pair.row < s.precision.rows)
    (before : pair.column < s.offset) :
    s.bitMatrix.isSet pair.row pair.column = true ↔ pair ∉ s.table.items := by
  rw [layout.isSet_bitMatrix inside]
  simp [before]

theorem isSet_inside (layout : s.Layout) (allocated : s.window ≠ #[])
    (inside : pair.row < s.precision.rows) (from_offset : s.offset ≤ pair.column)
    (near : pair.column < s.offset + 8) :
    s.bitMatrix.isSet pair.row pair.column = windowBit s.window pair.row (pair.column - s.offset) := by
  have absent : pair ∉ s.table.items := by
    intro member
    have := layout.outside allocated pair member
    omega
  rw [layout.isSet_bitMatrix inside]
  simp [absent, from_offset, Nat.not_lt.mpr from_offset]

/-- Behind the window the table names the set cells. -/
theorem isSet_behind (layout : s.Layout) (inside : pair.row < s.precision.rows)
    (behind : s.offset + 8 ≤ pair.column) :
    s.bitMatrix.isSet pair.row pair.column = true ↔ pair ∈ s.table.items := by
  have clear : windowBit s.window pair.row (pair.column - s.offset) = false := by
    rw [Bool.eq_false_iff]
    intro set
    have := windowBit_lt set
    omega
  rw [layout.isSet_bitMatrix inside]
  simp [clear, Nat.not_lt.mpr (by omega : s.offset ≤ pair.column)]

theorem offset_sparse (layout : s.Layout) (none : s.window = #[]) : s.offset = 0 := by
  rcases layout.window with ⟨_, start⟩ | size
  · exact start
  · exact (window_ne_empty size none).elim

theorem size_window (layout : s.Layout) (allocated : s.window ≠ #[]) :
    s.window.size = s.precision.rows :=
  layout.window.resolve_left fun none => allocated none.1

theorem isSet_sparse (layout : s.Layout) (none : s.window = #[])
    (inside : pair.row < s.precision.rows) :
    s.bitMatrix.isSet pair.row pair.column = true ↔ pair ∈ s.table.items := by
  rw [layout.isSet_bitMatrix inside]
  simp [layout.offset_sparse none, windowBit, none]

/-- Where there is no window, and behind one, the table names the set cells. -/
theorem mem_cells_listed (layout : s.Layout) (inside : pair.row < s.precision.rows)
    (listed : s.window = #[] ∨ s.offset + 8 ≤ pair.column) :
    pair.cell ∈ s.bitMatrix.cells ↔ pair ∈ s.table.items := by
  rw [BitMatrix.cell_mem_cells]
  rcases listed with none | behind
  · exact layout.isSet_sparse none inside
  · exact layout.isSet_behind inside behind

theorem mem_cells_before (layout : s.Layout) (inside : pair.row < s.precision.rows)
    (before : pair.column < s.offset) :
    pair.cell ∈ s.bitMatrix.cells ↔ pair ∉ s.table.items :=
  BitMatrix.cell_mem_cells.trans (layout.isSet_before inside before)

theorem mem_itemCells (layout : s.Layout) {cell : Nat × Nat}
    (member : cell ∈ (s.table.items.map Pair.cell).toFinset) :
    cell.1 < s.precision.rows ∧ cell.2 < 64 := by
  obtain ⟨pair, listed, rfl⟩ := List.mem_map.mp (List.mem_toFinset.mp member)
  exact ⟨layout.row_lt listed, pair.column_lt⟩

theorem cells_sparse (layout : s.Layout) (none : s.window = #[]) :
    s.bitMatrix.cells = (s.table.items.map Pair.cell).toFinset := by
  apply BitMatrix.cells_eq_of_pairs layout.size_bitMatrix (fun _ => layout.mem_itemCells)
  intro pair inside
  rw [layout.mem_cells_listed inside (Or.inl none), cell_mem_itemCells]

theorem bitMatrix?_eq (layout : s.Layout) : s.bitMatrix? = .ok s.bitMatrix := by
  rw [bitMatrix?, if_pos]
  simpa using fun pair member => layout.row_lt member

end Layout

/-- A counter has no window exactly below 3K/32 coupons. -/
theorem windowed_eq_iff :
    s.flavor.windowed = !s.window.isEmpty ↔
      (s.window = #[] ↔ 32 * s.numCoupons < 3 * s.precision.rows) := by
  rw [Bool.eq_iff_iff, flavor, windowed_iff, Bool.not_eq_true', Bool.eq_false_iff, ne_eq,
    Array.isEmpty_iff, ← Nat.not_lt, not_iff_not]
  exact Iff.comm

/-- The window moves where the new number of coupons calls for the next column. -/
theorem Valid.windowOffset_succ (valid : s.Valid)
    (full : (27 + 8 * s.offset) * s.precision.rows ≤ 8 * (s.numCoupons + 1)) :
    windowOffset s.precision (s.numCoupons + 1) = s.offset + 1 := by
  have below := windowOffset_succ_le s.precision s.numCoupons
  have step := @windowOffset_lt_iff s.precision (s.numCoupons + 1) s.offset
  rw [← valid.offset_eq] at below
  omega

/-- Short of that number it stays. -/
theorem Valid.windowOffset_same (valid : s.Valid)
    (short : 8 * (s.numCoupons + 1) < (27 + 8 * s.offset) * s.precision.rows) :
    windowOffset s.precision (s.numCoupons + 1) = s.offset := by
  have above := windowOffset_mono s.precision (Nat.le_succ s.numCoupons)
  have step := windowOffset_lt_iff.mpr short
  rw [Nat.succ_eq_add_one, ← valid.offset_eq] at above
  omega

end Sketch
end DistinctCount
