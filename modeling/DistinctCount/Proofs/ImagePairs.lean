import DistinctCount.Image.Decode
import DistinctCount.Image.Encode
import DistinctCount.Proofs.Tally
import DistinctCount.Proofs.WindowCodec

/-! The pairs of an image. They are sorted, so that their order in the table does not
show, and beside a window their columns are written as codes that the reader turns
back into columns. -/
namespace DistinctCount

open ColumnOrder (Outside)

namespace Sketch

variable {pairs : List Pair}

theorem sortPairs_perm (pairs : List Pair) : (sortPairs pairs).Perm pairs := List.mergeSort_perm _ _

theorem sortPairs_sorted (pairs : List Pair) : (sortPairs pairs).Pairwise (· ≤ ·) := by
  have sorted := @List.pairwise_mergeSort Pair (fun a b => decide (a ≤ b))
    (fun a b c => by simpa using UInt32.le_trans) (fun a b => by simpa using UInt32.le_total a b) pairs
  simpa [sortPairs] using sorted

theorem sortPairs_ascending (distinct : pairs.Nodup) : (sortPairs pairs).Pairwise (· < ·) := by
  have different : (sortPairs pairs).Nodup := (sortPairs_perm pairs).nodup_iff.mpr distinct
  exact ((sortPairs_sorted pairs).and different).imp fun ⟨le, ne⟩ => UInt32.lt_of_le_of_ne le ne

/-- Pairs in ascending order are the only order of themselves that is. -/
theorem sortPairs_congr {others : List Pair} (perm : pairs.Perm others) :
    sortPairs pairs = sortPairs others :=
  List.Perm.eq_of_pairwise (fun _ _ _ _ => UInt32.le_antisymm) (sortPairs_sorted pairs)
    (sortPairs_sorted others) ((sortPairs_perm pairs).trans (perm.trans (sortPairs_perm others).symm))

theorem sortPairs_map (code : Pair → Pair) (pairs : List Pair) :
    ∃ order : List Pair, order.Perm pairs ∧ sortPairs (pairs.map code) = order.map code := by
  refine ⟨pairs.mergeSort fun a b => decide (code a ≤ code b), List.mergeSort_perm _ _, ?_⟩
  rw [List.map_mergeSort, sortPairs]
  exact fun _ _ _ _ => rfl

end Sketch

/-! ### Columns beside a window -/

namespace Image

variable {flavor : Flavor} {phase offset column code : Nat}

def columnCode (flavor : Flavor) (phase offset column : Nat) : Nat :=
  if flavor = .pinned then column - 8 else (ColumnOrder.rank? phase offset column).getD 0

def surpriseCode (flavor : Flavor) (phase offset : Nat) (pair : Pair) : Pair :=
  Sketch.recolumn pair (columnCode flavor phase offset pair.column)

/-- A window beside which columns have codes: one that is pinned to column 0, or one
that ends at column 63 at the latest, in a phase of a moving window. -/
def Coded (flavor : Flavor) (phase offset : Nat) : Prop :=
  flavor = .pinned ∧ offset = 0 ∨ flavor = .sliding ∧ phase < 16 ∧ offset ≤ 56

/-- From K/2 coupons on, columns have codes as long as the window has not moved past
the last column. -/
theorem coded_of_count {p : Precision} {coupons : Nat} (half : p.rows ≤ 2 * coupons)
    (within : windowOffset p coupons ≤ 56) :
    Coded (Flavor.ofCount p coupons) (windowPhase p coupons) (windowOffset p coupons) := by
  have positive := p.rows_pos
  rcases ofCount_cases p coupons with ⟨_, flavor⟩ | ⟨_, _, flavor⟩ | ⟨_, _, flavor⟩ | ⟨_, few, flavor⟩ |
    ⟨many, flavor⟩
  · omega
  · omega
  · omega
  · exact Or.inl ⟨flavor, windowOffset_eq_zero few⟩
  · refine Or.inr ⟨flavor, ?_, within⟩
    rw [windowPhase, if_neg (by omega)]
    exact Nat.mod_lt _ (by decide)

theorem decodeColumn_columnCode (coded : Coded flavor phase offset) (small : column < 64)
    (outside : Outside offset column) :
    columnCode flavor phase offset column < 56 ∧
      decodeColumn flavor phase offset (columnCode flavor phase offset column) = .ok column := by
  rw [Outside] at outside
  rcases coded with ⟨rfl, rfl⟩ | ⟨rfl, inside, within⟩
  · have late : 8 ≤ column := by omega
    have code : columnCode .pinned phase 0 column = column - 8 := rfl
    rw [code, decodeColumn, if_pos rfl, if_pos (by omega), Nat.sub_add_cancel late]
    exact ⟨by omega, rfl⟩
  · obtain ⟨rank, bound, ranked, back⟩ := ColumnOrder.exists_rank inside within small outside
    simp [columnCode, decodeColumn, ranked, back, bound]

theorem decodeColumn_sound (coded : Coded flavor phase offset)
    (read : decodeColumn flavor phase offset code = .ok column) :
    column < 64 ∧ Outside offset column ∧ columnCode flavor phase offset column = code := by
  rcases coded with ⟨rfl, rfl⟩ | ⟨rfl, inside, within⟩
  · rw [decodeColumn, if_pos rfl] at read
    split at read
    · cases read
      exact ⟨by omega, Or.inr (by omega), Nat.add_sub_cancel ..⟩
    · contradiction
  · simp only [decodeColumn, reduceCtorEq, if_false] at read
    split at read
    · rename_i found
      cases read
      obtain ⟨small, outside, ranked⟩ := ColumnOrder.column?_sound inside within found
      exact ⟨small, outside, by simp [columnCode, ranked]⟩
    · contradiction

variable {pairs surprises : List Pair} {read : Array Pair}

theorem cell_surpriseCode {pair : Pair} (small : columnCode flavor phase offset pair.column < 64) :
    (surpriseCode flavor phase offset pair).row = pair.row ∧
      (surpriseCode flavor phase offset pair).column =
        columnCode flavor phase offset pair.column :=
  ⟨Pair.row_pack pair.row_lt small, Pair.column_pack pair.row_lt small⟩

theorem decodeSurprises_map (coded : Coded flavor phase offset)
    (outside : ∀ pair ∈ pairs, Outside offset pair.column) (real : ∀ pair ∈ pairs, pair ≠ Pair.vacant) :
    decodeSurprises flavor phase offset (pairs.map (surpriseCode flavor phase offset)) read =
      .ok (read.toList ++ pairs) := by
  induction pairs generalizing read with
  | nil => simp [decodeSurprises]
  | cons pair rest ih =>
    obtain ⟨bound, back⟩ := decodeColumn_columnCode coded pair.column_lt (outside pair (by simp))
    obtain ⟨row, column⟩ := cell_surpriseCode (bound.trans (by decide))
    simp only [List.map_cons, decodeSurprises, row, column, back, Pair.pack_row_column,
      real pair (by simp), if_false]
    rw [ih (fun other member => outside other (by simp [member]))
      (fun other member => real other (by simp [member])), Array.toList_push, List.append_assoc,
      List.singleton_append]

/-- What is read beside a window are pairs outside it, and it was written as they are. -/
theorem decodeSurprises_sound (coded : Coded flavor phase offset)
    (run : decodeSurprises flavor phase offset pairs read = .ok surprises) :
    ∃ fresh, surprises = read.toList ++ fresh ∧
      fresh.map (surpriseCode flavor phase offset) = pairs ∧
      ∀ pair ∈ fresh, Outside offset pair.column ∧ pair ≠ Pair.vacant := by
  induction pairs generalizing read with
  | nil =>
    cases run
    exact ⟨[], by simp⟩
  | cons pair rest ih =>
    rw [decodeSurprises] at run
    split at run
    · contradiction
    · rename_i column decoded
      obtain ⟨small, outside, code⟩ := decodeColumn_sound coded decoded
      simp only at run
      split at run
      · contradiction
      · rename_i real
        obtain ⟨fresh, whole, back, good⟩ := ih run
        have row := Pair.row_pack pair.row_lt small
        have same := Pair.column_pack pair.row_lt small
        refine ⟨Pair.pack pair.row column :: fresh, by simp [whole], ?_, ?_⟩
        · rw [List.map_cons, back, surpriseCode, same, code, Sketch.recolumn, row,
            Pair.pack_row_column]
        · simpa [same, outside, real] using good

end Image

/-! ### The pairs of a counter -/

namespace Sketch

variable {s : Sketch} {pair : Pair}

theorem mem_windowPairs (rows : s.window.size ≤ 2 ^ 26) :
    pair ∈ s.windowPairs ↔ windowBit s.window pair.row pair.column = true := by
  have unshifted : s.window.map UInt8.toUInt64 =
      s.window.map fun byte => byte.toUInt64 <<< UInt64.ofNat 0 := by
    simp
  rw [windowPairs, BitMatrix.mem_pairs (by simpa using rows), unshifted, Pair.cell,
    mem_windowCells (by decide)]
  simp [pair.column_lt]

namespace Layout

theorem size_window_le (layout : s.Layout) : s.window.size ≤ 2 ^ 26 := by
  rcases layout.window with ⟨none, _⟩ | size
  · simp [none]
  · exact size ▸ s.precision.rows_le

/-- With a window at column 0, or none, the pairs of the table and of the window are
the cells. -/
theorem mem_listed (layout : s.Layout) (start : s.offset = 0) :
    pair ∈ s.table.items ++ s.windowPairs ↔ pair.cell ∈ s.bitMatrix.cells := by
  rw [List.mem_append, mem_windowPairs layout.size_window_le]
  by_cases none : s.window = #[]
  · rw [layout.cells_sparse none, cell_mem_itemCells]
    simp [none, windowBit]
  · rw [layout.cells_pinned none start, Finset.mem_union, cell_mem_itemCells, Pair.cell,
      mem_windowCells layout.offset_lt, or_comm]
    simp [pair.column_lt, start]

theorem nodup_listed (layout : s.Layout) (start : s.offset = 0) :
    (s.table.items ++ s.windowPairs).Nodup := by
  have windowPairs : s.windowPairs.Nodup :=
    BitMatrix.nodup_pairs (by simpa using layout.size_window_le)
  refine layout.table.distinct.append windowPairs ?_
  intro pair listed inWindow
  rw [mem_windowPairs layout.size_window_le] at inWindow
  have allocated : s.window ≠ #[] := by
    intro none
    simp [none, windowBit] at inWindow
  have := windowBit_lt inWindow
  have := layout.outside allocated pair listed
  omega

theorem length_listed (layout : s.Layout) (start : s.offset = 0) :
    (s.table.items ++ s.windowPairs).length = s.bitMatrix.count := by
  have cells : s.bitMatrix.cells = ((s.table.items ++ s.windowPairs).map Pair.cell).toFinset := by
    apply BitMatrix.cells_eq_of_pairs layout.size_bitMatrix
    · intro cell member
      obtain ⟨pair, listed, rfl⟩ := List.mem_map.mp (List.mem_toFinset.mp member)
      have set := (layout.mem_listed start).mp listed
      exact ⟨layout.size_bitMatrix ▸ BitMatrix.row_lt_of_mem_cells set, pair.column_lt⟩
    · intro pair _
      rw [cell_mem_itemCells, layout.mem_listed start]
  rw [BitMatrix.count_eq_card, cells, card_itemCells (layout.nodup_listed start)]

end Layout

/-- Columns are ranked all at once, or one of them has no rank. -/
theorem rankColumns_eq (phase offset : Nat) (pairs : List Pair) (ranked : Array Pair) :
    rankColumns phase offset pairs ranked =
      if pairs.all fun pair => (ColumnOrder.rank? phase offset pair.column).isSome then
        .ok (ranked.toList ++ pairs.map (Image.surpriseCode .sliding phase offset))
      else .error .index := by
  induction pairs generalizing ranked with
  | nil => simp [rankColumns]
  | cons pair rest ih =>
    rw [rankColumns]
    cases found : ColumnOrder.rank? phase offset pair.column with
    | none => simp [found]
    | some rank =>
      simp [ih, found, Image.surpriseCode, Image.columnCode]

/-- Counters that hold the same pairs and numbers. Their seeds and the order of the
slots in their tables may differ. -/
structure Alike (a b : Sketch) : Prop where
  precision : a.precision = b.precision
  firstInteresting : a.firstInteresting = b.firstInteresting
  numCoupons : a.numCoupons = b.numCoupons
  offset : a.offset = b.offset
  window : a.window = b.window
  merged : a.merged = b.merged
  hipState : a.hipState = b.hipState
  items : a.table.items.Perm b.table.items

namespace Alike

variable {a b : Sketch}

theorem imagePairs_perm (alike : a.Alike b) :
    a.imagePairs = .error .index ∧ b.imagePairs = .error .index ∨
      ∃ first second, a.imagePairs = .ok first ∧ b.imagePairs = .ok second ∧ first.Perm second := by
  have items := alike.items
  have windowPairs : a.windowPairs = b.windowPairs := by
    rw [Sketch.windowPairs, Sketch.windowPairs, alike.window]
  have flavor : a.flavor = b.flavor := by
    rw [Sketch.flavor, Sketch.flavor, alike.precision, alike.numCoupons]
  simp only [imagePairs, flavor]
  cases b.flavor with
  | empty => exact Or.inr ⟨[], [], rfl, rfl, List.Perm.refl _⟩
  | sparse | hybrid => exact Or.inr ⟨_, _, rfl, rfl, windowPairs ▸ items.append_right _⟩
  | pinned => exact Or.inr ⟨_, _, rfl, rfl, items.map _⟩
  | sliding =>
    simp only [rankColumns_eq, alike.precision, alike.numCoupons, alike.offset, items.all_eq]
    split
    · exact Or.inr ⟨_, _, rfl, rfl, (items.map _).append_left _⟩
    · exact Or.inl ⟨rfl, rfl⟩

/-- Counters that are alike have the same image. -/
theorem toImage_eq (alike : a.Alike b) (hash : Hash.seedHash a.seed = Hash.seedHash b.seed) :
    a.toImage = b.toImage := by
  have imageOf (pairs : List Pair) : a.imageOf pairs = b.imageOf pairs := by
    simp only [Sketch.imageOf, imageWindow, flavor, alike.precision, alike.numCoupons, alike.window,
      alike.firstInteresting, alike.merged, alike.hipState, hash]
  rcases alike.imagePairs_perm with ⟨first, second⟩ | ⟨_, _, first, second, perm⟩
  · simp only [toImage, first, second]
  · simp only [toImage, first, second, sortPairs_congr perm, imageOf]

end Alike

end Sketch
end DistinctCount
