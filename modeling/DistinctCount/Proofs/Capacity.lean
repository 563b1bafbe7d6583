import DistinctCount.Proofs.MergedImage

/-! What a counter and a union can take without a fault. A table holds the surprises beside
its window, and it is the number of surprises, not of coupons, that may outgrow it; the
other limit is the last column that a window can come to. -/
namespace DistinctCount

namespace Sketch

variable {s after : Sketch} {pair : Pair} {m : BitMatrix} {offset : Nat}

/-! ### Counting surprises -/

/-- Beside a window there are at most the cells before it and the set cells. -/
theorem card_surpriseCells_le (within : offset < 64) :
    (surpriseCells offset m).card ≤ m.size * offset + m.count := by
  have subset : surpriseCells offset m ⊆
      (Finset.range m.size ×ˢ Finset.range offset) ∪ m.cells := by
    rintro ⟨row, column⟩ surprise
    obtain ⟨inside, small, ⟨before, _⟩ | ⟨_, set⟩⟩ := (mem_surpriseCells within).mp surprise
    · simp [inside, before]
    · simp [BitMatrix.mem_cells, small, set]
  calc (surpriseCells offset m).card
      ≤ ((Finset.range m.size ×ˢ Finset.range offset) ∪ m.cells).card := Finset.card_le_card subset
    _ ≤ (Finset.range m.size ×ˢ Finset.range offset).card + m.cells.card := Finset.card_union_le _ _
    _ = m.size * offset + m.count := by simp [BitMatrix.count_eq_card]

/-- The number of cells that are not what their side of a window implies: the clear cells
before it and the set cells behind it. -/
def numSurprises (offset : Nat) (m : BitMatrix) : Nat :=
  ((Finset.range m.size ×ˢ Finset.range 64).filter fun cell =>
    cell.2 < offset ∧ m.isSet cell.1 cell.2 = false ∨
      offset + 8 ≤ cell.2 ∧ m.isSet cell.1 cell.2 = true).card

theorem numSurprises_eq (within : offset < 64) :
    numSurprises offset m = (surpriseCells offset m).card := by
  rw [numSurprises]
  congr 1
  ext ⟨row, column⟩
  rw [mem_surpriseCells within]
  simp only [Finset.mem_filter, Finset.mem_product, Finset.mem_range, and_assoc]

theorem Layout.mem_items_iff (layout : s.Layout) (allocated : s.window ≠ #[])
    (inside : pair.row < s.precision.rows) :
    pair ∈ s.table.items ↔ pair.cell ∈ surpriseCells s.offset s.bitMatrix := by
  rw [Pair.cell, mem_surpriseCells layout.offset_lt, layout.size_bitMatrix]
  simp only [inside, pair.column_lt, true_and]
  by_cases before : pair.column < s.offset
  · have behind : ¬ s.offset + 8 ≤ pair.column := by omega
    simp only [before, behind, true_and, false_and, or_false, ← Bool.not_eq_true,
      layout.isSet_before inside before, not_not]
  · by_cases near : pair.column < s.offset + 8
    · refine iff_of_false (fun member => ?_) (by omega)
      have := layout.outside allocated pair member
      omega
    · simp only [before, Nat.le_of_not_lt near, true_and, false_and, false_or,
        layout.isSet_behind inside (Nat.le_of_not_lt near)]

theorem Layout.numItems_eq (layout : s.Layout) (allocated : s.window ≠ #[]) :
    s.table.numItems = (surpriseCells s.offset s.bitMatrix).card := by
  have cells : surpriseCells s.offset s.bitMatrix = (s.table.items.map Pair.cell).toFinset := by
    refine BitMatrix.cells_eq_of_pairs (p := s.precision) (by simpa using layout.size_bitMatrix)
      (fun _ => layout.mem_itemCells) fun pair inside => ?_
    rw [cell_mem_itemCells]
    exact (layout.mem_items_iff allocated inside).symm
  rw [cells, card_itemCells layout.table.distinct, layout.table.numItems]

theorem Valid.numItems_sparse (valid : s.Valid) (none : s.window = #[]) :
    s.table.numItems = s.numCoupons := by
  rw [← valid.count, BitMatrix.count_eq_card, valid.cells_sparse none,
    card_itemCells valid.table.distinct, valid.table.numItems]

/-- The surprises beside the window of a counter are the pairs of its table, or where it has
no window some of them. -/
theorem Valid.surprises_le (valid : s.Valid) :
    (surpriseCells s.offset s.bitMatrix).card ≤ s.table.numItems := by
  by_cases none : s.window = #[]
  · have bound := @card_surpriseCells_le s.bitMatrix s.offset valid.offset_lt
    rw [valid.offset_sparse none, Nat.mul_zero, Nat.zero_add, valid.count] at bound
    rwa [valid.numItems_sparse none, valid.offset_sparse none]
  · exact (valid.numItems_eq none).ge

theorem Valid.surprises_fit (valid : s.Valid) :
    (surpriseCells s.offset s.bitMatrix).card ≤ PairTable.capacity s.precision.pairBits :=
  valid.surprises_le.trans (valid.width ▸ valid.table.numItems_le)

/-! ### Changes of the layout -/

theorem layOut_total {table : PairTable} (empty : table.WellFormed)
    (width : table.validBits = s.precision.pairBits) (none : table.items = [])
    (size : m.size = s.precision.rows) (within : offset < 64)
    (real : Pair.vacant.cell ∉ surpriseCells offset m)
    (few : (surpriseCells offset m).card ≤ PairTable.capacity s.precision.pairBits) :
    ∃ after, layOut s offset table m = .ok after := by
  have small : (Array.map (surprises offset) m).size ≤ 2 ^ 26 := by
    simpa [size] using s.precision.rows_le
  have length := BitMatrix.length_pairs_le small
  rw [BitMatrix.count_eq_card] at length
  obtain ⟨filled, inserted⟩ := PairTable.insertAll_fresh_total empty width none
    (BitMatrix.nodup_pairs small) (inRange_surprise size within real) (length.trans few)
  exact ⟨_, by rw [layOut, inserted]⟩

theorem slide_total (layout : s.Layout) (within : s.offset + 1 ≤ lastWindowOffset)
    (few : (surpriseCells (s.offset + 1) s.bitMatrix).card ≤
      PairTable.capacity s.precision.pairBits) : ∃ after, s.slide = .ok after := by
  have bound : s.offset + 1 ≤ 56 := within
  obtain ⟨cleared, width, items⟩ := PairTable.clear_spec layout.table
  rw [slide]
  simp only [layout.bitMatrix?_eq]
  rw [if_neg (Nat.not_lt.mpr within)]
  exact layOut_total cleared (width.trans layout.width) items layout.size_bitMatrix (by omega)
    (layout.vacant_not_surprise bound) few

theorem openWindow_total (layout : s.Layout) : ∃ after, s.openWindow = .ok after := by
  obtain ⟨marked, run, _⟩ :=
    markEarly_spec (p := s.precision) fun pair member => layout.row_lt member
  obtain ⟨emptyFormed, emptyWidth, emptyItems⟩ := PairTable.empty_spec s.precision
  have fewer := List.length_filter_le (fun pair : Pair => !decide (pair.column < 8)) s.table.items
  have fits := layout.table.numItems_le
  rw [layout.table.numItems, layout.width] at fits
  obtain ⟨table, inserted⟩ := PairTable.insertAll_fresh_total emptyFormed emptyWidth emptyItems
    (layout.table.distinct.filter fun pair : Pair => !decide (pair.column < 8))
    (fun pair member => layout.inRange (List.mem_filter.mp member).1) (fewer.trans fits)
  exact ⟨{ s with table := table, window := marked }, by simp only [openWindow, run, inserted]⟩

/-! ### Coupons -/

theorem insertPair_total (layout : s.Layout) (inside : pair.InRange s.precision)
    (room : pair ∉ s.table.items → s.table.numItems < PairTable.capacity s.precision.pairBits) :
    ∃ r, s.withTable (·.insert pair) = .ok r := by
  rw [withTable_eq]
  by_cases member : pair ∈ s.table.items
  · exact ⟨_, by rw [PairTable.insert_of_mem layout.table member]⟩
  · obtain ⟨⟨table, novel⟩, inserted⟩ := PairTable.insert_total layout.table (layout.narrow inside)
      inside.2 (by rw [layout.width]; exact room member)
    exact ⟨_, by rw [inserted]⟩

theorem record_total (layout : s.Layout) (allocated : s.window ≠ #[])
    (inside : pair.row < s.precision.rows)
    (named : s.offset + 8 ≤ pair.column → pair ≠ Pair.vacant)
    (room : s.offset + 8 ≤ pair.column → pair ∉ s.table.items →
      s.table.numItems < PairTable.capacity s.precision.pairBits) :
    ∃ r, s.record pair = .ok r := by
  have settled {result : Except Fault (Sketch × Bool)}
      (spec : (pair.cell ∈ s.bitMatrix.cells → result = .ok (s, false)) ∧
        (pair.cell ∉ s.bitMatrix.cells → ∃ after, result = .ok (after, true) ∧ s.Adds pair after)) :
      ∃ r, result = .ok r := by
    by_cases set : pair.cell ∈ s.bitMatrix.cells
    · exact ⟨_, spec.1 set⟩
    · obtain ⟨after, made, _⟩ := spec.2 set
      exact ⟨_, made⟩
  unfold record
  by_cases before : pair.column < s.offset
  · rw [if_pos before]
    exact settled (erasePair_spec layout inside before)
  · rw [if_neg before]
    by_cases near : pair.column < s.offset + 8
    · rw [if_pos near]
      exact settled (setPair_spec layout allocated inside (by omega) near)
    · rw [if_neg near]
      have behind : s.offset + 8 ≤ pair.column := by omega
      exact insertPair_total layout ⟨inside, named behind⟩ (room behind)

theorem collectSparse_total (layout : s.Layout) (none : s.window = #[])
    (inside : pair.InRange s.precision)
    (room : pair ∉ s.table.items → s.table.numItems < PairTable.capacity s.precision.pairBits) :
    ∃ after, s.collectSparse pair = .ok after := by
  obtain ⟨⟨r, novel⟩, recorded⟩ := insertPair_total layout inside room
  obtain ⟨set, clear⟩ := insertPair_spec layout inside (Or.inl none)
  rw [collectSparse, recorded]
  cases novel with
  | false => exact ⟨r, rfl⟩
  | true =>
    have absent : pair.cell ∉ s.bitMatrix.cells := by
      intro member
      cases (set member).symm.trans recorded
    have charged := (clear absent _ _ recorded).2.charged.1
    dsimp only
    split
    · exact openWindow_total charged.layout
    · exact ⟨_, rfl⟩

/-- With a coupon added, a counter can be laid out for its new number of coupons: the window
ends at column 63 at the latest and the surprises beside it fit the largest table. -/
def Movable (s : Sketch) (pair : Pair) : Prop :=
  ∀ m : BitMatrix, m.size = s.precision.rows → m.cells = insert pair.cell s.bitMatrix.cells →
    windowOffset s.precision (s.numCoupons + 1) ≤ lastWindowOffset ∧
      (surpriseCells (windowOffset s.precision (s.numCoupons + 1)) m).card ≤
        PairTable.capacity s.precision.pairBits

theorem collectWindowed_total (valid : s.Valid) (allocated : s.window ≠ #[])
    (inside : pair.row < s.precision.rows)
    (named : s.offset + 8 ≤ pair.column → pair ≠ Pair.vacant)
    (room : s.offset + 8 ≤ pair.column → pair ∉ s.table.items →
      s.table.numItems < PairTable.capacity s.precision.pairBits)
    (movable : s.Movable pair) : ∃ after, s.collectWindowed pair = .ok after := by
  obtain ⟨⟨r, novel⟩, recorded⟩ := record_total valid.toLayout allocated inside named room
  obtain ⟨set, clear⟩ := record_spec valid.toLayout allocated inside named
  rw [collectWindowed, recorded]
  cases novel with
  | false => exact ⟨r, rfl⟩
  | true =>
    have absent : pair.cell ∉ s.bitMatrix.cells := by
      intro member
      cases (set member).symm.trans recorded
    obtain ⟨charged, stays, _⟩ := (clear absent _ _ recorded).2.charged
    have offset := stays.offset
    dsimp only
    generalize r.charge pair = c at charged offset
    split
    · rename_i full
      rw [charged.precision, charged.numCoupons, offset] at full
      obtain ⟨within, few⟩ := movable c.bitMatrix
        (charged.layout.size_bitMatrix.trans (congrArg _ charged.precision)) charged.cells
      rw [valid.windowOffset_succ full, ← offset] at within few
      rw [← charged.precision] at few
      exact slide_total charged.layout within few
    · exact ⟨c, rfl⟩

/-- A coupon is collected without a fault where the table has room for it, should it go
there, and the counter can be laid out afterwards. -/
theorem collect_total (valid : s.Valid) (inside : pair.row < s.precision.rows)
    (named : s.offset + 8 ≤ pair.column → pair ≠ Pair.vacant)
    (room : s.window = #[] ∨ s.offset + 8 ≤ pair.column → pair ∉ s.table.items →
      s.table.numItems < PairTable.capacity s.precision.pairBits)
    (movable : s.Movable pair) : ∃ after, s.collect pair = .ok after := by
  rw [collect]
  split
  · exact ⟨s, rfl⟩
  · split
    · rename_i empty
      have none : s.window = #[] := by simpa using empty
      have inRange := valid.inRange_sparse none inside named
      exact collectSparse_total valid.toLayout none inRange (room (Or.inl none))
    · rename_i empty
      have allocated : s.window ≠ #[] := by simpa using empty
      exact collectWindowed_total valid allocated inside named (fun behind => room (Or.inr behind)) movable

/-! ### Numbers of coupons -/

/-- With so many coupons, wherever they lie, the window and the table are within their limits. -/
def Roomy (p : Precision) (coupons : Nat) : Prop :=
  windowOffset p coupons ≤ lastWindowOffset ∧
    p.rows * windowOffset p coupons + coupons ≤ PairTable.capacity p.pairBits

theorem Roomy.mono {p : Precision} {few many : Nat} (roomy : Roomy p many) (less : few ≤ many) :
    Roomy p few := by
  have offset := windowOffset_mono p less
  exact ⟨offset.trans roomy.1, (Nat.add_le_add (Nat.mul_le_mul_left _ offset) less).trans roomy.2⟩

theorem Valid.numItems_le (valid : s.Valid) :
    s.table.numItems ≤ s.precision.rows * s.offset + s.numCoupons := by
  by_cases none : s.window = #[]
  · rw [valid.numItems_sparse none]
    omega
  · have bound := @card_surpriseCells_le s.bitMatrix s.offset valid.offset_lt
    rwa [← valid.numItems_eq none, valid.size_bitMatrix, valid.count] at bound

theorem collect_total_of_roomy (valid : s.Valid) (inside : pair.InRange s.precision)
    (roomy : Roomy s.precision (s.numCoupons + 1)) : ∃ after, s.collect pair = .ok after := by
  have offset := windowOffset_mono s.precision (Nat.le_succ s.numCoupons)
  obtain ⟨within, fits⟩ := roomy
  refine collect_total valid inside.1 (fun _ => inside.2) (fun _ _ => ?_) fun m size cells => ⟨within, ?_⟩
  · have items := valid.numItems_le
    have gaps := Nat.mul_le_mul_left s.precision.rows (valid.offset_eq.trans_le offset)
    rw [Nat.succ_eq_add_one] at gaps
    omega
  · have count : m.count ≤ s.numCoupons + 1 := by
      rw [BitMatrix.count_eq_card, cells, ← valid.count, BitMatrix.count_eq_card]
      exact Finset.card_insert_le _ _
    have bound := @card_surpriseCells_le m (windowOffset s.precision (s.numCoupons + 1))
      (within.trans_lt (by decide))
    rw [size] at bound
    omega

/-- Coupons are collected without a fault where there is room for all of them. -/
theorem collectAll_total {coupons : List Pair} {limit : Nat} (valid : s.Valid) (truthful : s.Truthful)
    (inside : ∀ pair ∈ coupons, pair.InRange s.precision)
    (few : ((coupons.map Pair.cell).toFinset ∪ s.bitMatrix.cells).card ≤ limit)
    (roomy : Roomy s.precision limit) : ∃ after, s.collectAll coupons = .ok after := by
  induction coupons generalizing s with
  | nil => exact ⟨s, rfl⟩
  | cons pair rest ih =>
    have inRange := inside pair List.mem_cons_self
    obtain ⟨next, collected⟩ : ∃ next, s.collect pair = .ok next := by
      by_cases set : pair.cell ∈ s.bitMatrix.cells
      · exact ⟨s, collect_of_mem valid inRange set⟩
      · -- A coupon that is not there yet is one of those that the limit has counted.
        have grown : (insert pair.cell s.bitMatrix.cells).card ≤
            (((pair :: rest).map Pair.cell).toFinset ∪ s.bitMatrix.cells).card := by
          apply Finset.card_le_card
          intro cell member
          simp only [Finset.mem_insert, Finset.mem_union, List.map_cons, List.toFinset_cons] at member ⊢
          tauto
        rw [Finset.card_insert_of_notMem set, ← BitMatrix.count_eq_card, valid.count] at grown
        exact collect_total_of_roomy valid inRange (roomy.mono (grown.trans few))
    have step := collect_gathers valid truthful inRange collected
    obtain ⟨after, run⟩ := @ih next step.valid step.truthful
      (fun other member => step.precision ▸ inside other (List.mem_cons_of_mem _ member))
      (by rw [step.cells, Finset.union_left_comm, ← Finset.insert_eq, ← Finset.insert_union,
            ← List.toFinset_cons, ← List.map_cons]
          exact few)
      (step.precision ▸ roomy)
    exact ⟨after, collectAll_cons.mpr ⟨next, collected, run⟩⟩

/-- Up to twelve times as many coupons as rows there is room, with a little more for the
coupons of a sparse counter; a table for the highest precision cannot grow that far. -/
theorem roomy_of_few {p : Precision} {coupons : Nat} (few : 32 * coupons < 387 * p.rows)
    (top : p.lgK = 26 → 32 * coupons < 6 * p.rows) : Roomy p coupons := by
  have positive := p.rows_pos
  have le_twentySix := p.le_twentySix
  have bits : p.pairBits = 6 + p.lgK := rfl
  have rows : p.rows = 2 ^ p.lgK := rfl
  have offset : windowOffset p coupons < 9 + 1 := windowOffset_lt_iff.mpr (by omega)
  have passed : 8 * (p.rows * windowOffset p coupons) ≤ 8 * coupons - 19 * p.rows := by
    rw [← Nat.mul_assoc]
    exact Nat.mul_div_le _ _
  have capacity := @PairTable.four_mul_capacity p.pairBits (by omega)
  refine ⟨by rw [lastWindowOffset]; omega, ?_⟩
  by_cases highest : p.lgK = 26
  · have large : 2 ^ 4 * p.rows = 2 ^ min (p.pairBits - 1) 30 := by
      rw [rows, ← Nat.pow_add]
      congr 1
      omega
    have less := top highest
    omega
  · have large : 2 ^ 5 * p.rows = 2 ^ min (p.pairBits - 1) 30 := by
      rw [rows, ← Nat.pow_add]
      congr 1
      omega
    omega

end Sketch

/-! ### Unions -/

namespace Union

variable {u : Union} {source : Sketch} {p : Precision}

theorem card_foldCells_le (p : Precision) (cells : Finset (Nat × Nat)) :
    (foldCells p cells).card ≤ cells.card := Finset.card_image_le

theorem collectTable_total {s : Sketch} {table : PairTable} (valid : s.Valid) (truthful : s.Truthful)
    (wellFormed : table.WellFormed)
    (roomy : Sketch.Roomy s.precision (table.numItems + s.numCoupons)) :
    ∃ after, collectTable s table = .ok after := by
  refine Sketch.collectAll_total valid truthful (fold_walk_inRange wellFormed.size) ?_ roomy
  rw [cells_fold_walk wellFormed.size]
  refine (Finset.card_union_le _ _).trans (Nat.add_le_add ((card_foldCells_le _ _).trans ?_) ?_)
  · rw [Sketch.card_itemCells wellFormed.distinct, wellFormed.numItems]
  · rw [← BitMatrix.count_eq_card, valid.count]

/-- A precision of up to seven steps less has a row for 128 rows. -/
theorem rows_le_of_near {q : Precision} (near : q.lgK ≤ p.lgK + 7) : q.rows ≤ 128 * p.rows := by
  have power : 2 ^ q.lgK ≤ 2 ^ (p.lgK + 7) := Nat.pow_le_pow_right (by decide) near
  rw [Nat.pow_add] at power
  rw [Precision.rows, Precision.rows]
  omega

/-- Lowering the precision by up to seven steps is no fault. -/
theorem reduce_total (fits : u.Fits) (coarser : p.lgK < u.precision.lgK)
    (near : u.cells = ∅ ∨ u.precision.lgK ≤ p.lgK + 7) : ∃ after, u.reduce p = .ok after := by
  obtain ⟨precision, seed, state⟩ := u
  cases state with
  | matrix rows => exact ⟨_, rfl⟩
  | accumulator s =>
    have sparse := accumulator_sparse fits
    obtain ⟨valid, none, rfl, _⟩ := fits
    dsimp only at sparse near coarser
    have below := s.precision.le_twentySix
    have few : 32 * s.numCoupons < 387 * p.rows := by
      rw [← valid.count]
      rcases near with empty | near
      · have positive := p.rows_pos
        have zero : s.bitMatrix.count = 0 := by
          rw [BitMatrix.count_eq_card, Finset.card_eq_zero]
          exact empty
        omega
      · have rows := rows_le_of_near near
        omega
    have roomy : Sketch.Roomy p (s.table.numItems + 0) := by
      rw [valid.numItems_sparse none]
      exact Sketch.roomy_of_few few (by omega)
    obtain ⟨after, gathered⟩ := collectTable_total (s := Sketch.newMerged p seed)
      (Sketch.newMerged_valid p seed).1 (Sketch.newMerged_truthful p seed) valid.table roomy
    exact ⟨⟨p, seed, .ofSketch after⟩, by simp only [reduce, gathered]⟩

/-- A sparse counter of up to seven steps more precision is merged without a fault. -/
theorem absorbSparse_total (fits : u.Fits) (valid : source.Valid) (none : source.window = #[])
    (near : source.precision.lgK ≤ u.precision.lgK + 7) : ∃ after, u.absorbSparse source = .ok after := by
  obtain ⟨precision, seed, state⟩ := u
  cases state with
  | matrix rows => exact ⟨_, rfl⟩
  | accumulator s =>
    have sparse := accumulator_sparse fits
    obtain ⟨validS, noneS, rfl, _⟩ := fits
    dsimp only at sparse near
    rw [validS.count] at sparse
    have few := (Sketch.windowed_eq_iff.mp valid.windowed).mp none
    have rows := rows_le_of_near near
    have roomy : Sketch.Roomy s.precision (source.table.numItems + s.numCoupons) := by
      rw [valid.numItems_sparse none]
      refine Sketch.roomy_of_few (by omega) fun top => ?_
      have below := source.precision.le_twentySix
      have most : source.precision.rows ≤ s.precision.rows :=
        Nat.pow_le_pow_right (by decide) (by omega)
      omega
    obtain ⟨after, gathered⟩ :=
      collectTable_total validS (validS.truthful_sparse noneS) valid.table roomy
    simp only [absorbSparse, gathered]
    split
    · exact ⟨_, rfl⟩
    · exact ⟨_, rfl⟩

theorem absorb_total (fits : u.Fits) (valid : source.Valid)
    (near : source.precision.lgK ≤ u.precision.lgK + 7) : ∃ after, u.absorb source = .ok after := by
  have flavor : source.flavor = Flavor.ofCount source.precision source.numCoupons := rfl
  unfold absorb
  rcases ofCount_cases source.precision source.numCoupons with ⟨_, layout⟩ | ⟨_, few, layout⟩ |
    ⟨_, _, layout⟩ | ⟨_, _, layout⟩ | ⟨_, layout⟩ <;> simp only [flavor, layout]
  · exact ⟨_, rfl⟩
  · exact absorbSparse_total fits valid ((Sketch.windowed_eq_iff.mp valid.windowed).mpr few) near
  · exact ⟨_, rfl⟩
  · exact ⟨_, rfl⟩
  · exact ⟨_, by rw [valid.bitMatrix?_eq]⟩

theorem update_total (fits : u.Fits) (valid : source.Valid) (accepting : accepts u.seed source = true)
    (finer : source.isEmpty = false → source.precision.lgK ≤ u.precision.lgK + 7)
    (coarser : source.isEmpty = false →
      u.cells = ∅ ∨ u.precision.lgK ≤ source.precision.lgK + 7) :
    ∃ after, u.update source = .ok after := by
  have hash : Hash.seedHash source.seed = Hash.seedHash u.seed := by simpa [accepts] using accepting
  simp only [update, hash, ne_eq, not_true, if_false]
  split
  · exact ⟨u, rfl⟩
  · rename_i some
    have some := Bool.eq_false_of_not_eq_true some
    split
    · rename_i less
      obtain ⟨reduced, lowered⟩ := reduce_total fits less (coarser some)
      obtain ⟨fitsR, precision, _⟩ := reduce_spec fits less lowered
      obtain ⟨after, absorbed⟩ := absorb_total fitsR valid (by rw [precision]; omega)
      exact ⟨after, by simp only [lowered, absorbed]; rfl⟩
    · obtain ⟨after, absorbed⟩ := absorb_total fits valid (finer some)
      exact ⟨after, by rw [absorbed]; rfl⟩

/-- The precisions of the counters that bring cells lie within seven steps of each other,
and no more than seven above that of the union. -/
def Near (p : Precision) (sources : List Sketch) : Prop :=
  ∀ a ∈ sources, a.isEmpty = false → a.precision.lgK ≤ p.lgK + 7 ∧
    ∀ b ∈ sources, b.isEmpty = false → a.precision.lgK ≤ b.precision.lgK + 7

/-- A union has no cells yet, or its precision is no more than seven steps above those of
the counters that bring cells. -/
def Held (u : Union) (sources : List Sketch) : Prop :=
  u.cells = ∅ ∨ ∀ source ∈ sources, source.isEmpty = false →
    u.precision.lgK ≤ source.precision.lgK + 7

section

variable {next : Union} {rest : List Sketch} (fits : u.Fits) (valid : source.Valid)
  (updated : u.update source = .ok next) (near : Near u.precision (source :: rest))

include fits valid updated near

theorem near_update : Near next.precision rest := by
  obtain ⟨_, _, _, lgK, _⟩ := update_spec fits valid updated
  intro a inA someA
  obtain ⟨fromUnion, others⟩ := near a (List.mem_cons_of_mem _ inA) someA
  refine ⟨?_, fun b inB => others b (List.mem_cons_of_mem _ inB)⟩
  rw [lgK]
  split
  · exact fromUnion
  · rename_i some
    have fromSource := others source List.mem_cons_self (Bool.eq_false_of_not_eq_true some)
    omega

theorem held_update (held : u.Held (source :: rest)) : next.Held rest := by
  obtain ⟨_, _, _, lgK, cells⟩ := update_spec fits valid updated
  cases empty : source.isEmpty with
  | true =>
    rw [empty, if_pos rfl] at lgK
    refine held.imp (fun none => ?_) fun all other member some => ?_
    · rw [cells, none, valid.cells_empty empty]
      rfl
    · exact lgK.trans_le (all other (List.mem_cons_of_mem _ member) some)
  | false =>
    rw [empty, if_neg (by decide)] at lgK
    refine Or.inr fun other member some => ?_
    have fromSource := (near source List.mem_cons_self empty).2 other (List.mem_cons_of_mem _ member) some
    omega

end

/-- Counters of near precisions are merged without a fault. -/
theorem updateAll_total {sources : List Sketch} (fits : u.Fits)
    (valid : ∀ source ∈ accepted u.seed sources, source.Valid)
    (near : Near u.precision (accepted u.seed sources)) (held : u.Held (accepted u.seed sources)) :
    ∃ after, u.updateAll sources = .ok after := by
  induction sources generalizing u with
  | nil => exact ⟨u, rfl⟩
  | cons source rest ih =>
    rw [updateAll, List.foldlM_cons]
    cases accepting : accepts u.seed source with
    | false =>
      have skipped : accepted u.seed (source :: rest) = accepted u.seed rest := by
        simp [accepted, accepting]
      rw [skipped] at valid near held
      rw [update_refused accepting]
      exact ih fits valid near held
    | true =>
      have taken : accepted u.seed (source :: rest) = source :: accepted u.seed rest := by
        simp [accepted, accepting]
      rw [taken] at valid near held
      obtain ⟨first, validRest⟩ := List.forall_mem_cons.mp valid
      obtain ⟨next, updated⟩ := update_total fits first accepting
        (fun some => (near source List.mem_cons_self some).1)
        (fun some => held.imp_right fun all => all source List.mem_cons_self some)
      obtain ⟨_, fitsNext, seed, _, _⟩ := update_spec fits first updated
      obtain ⟨after, run⟩ := ih fitsNext (seed ▸ validRest)
        (seed ▸ near_update fits first updated near) (seed ▸ held_update fits first updated near held)
      exact ⟨after, by rw [updated]; exact run⟩

end Union
end DistinctCount
