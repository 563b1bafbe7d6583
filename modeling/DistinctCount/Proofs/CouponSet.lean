import DistinctCount.Proofs.Collecting
import DistinctCount.Proofs.Results

/-! A counter as a set of coupons. From the empty counter on, however often the layout
changes on the way, the matrix holds the cells of the coupons met so far and nothing
else, and the number of coupons is the number of distinct ones. -/
namespace DistinctCount.Sketch

variable {s after : Sketch} {pair : Pair} {coupons : List Pair}

/-- Columns that updates pass over are full, so what is passed over is there already. -/
def Truthful (s : Sketch) : Prop :=
  ∀ row < s.precision.rows, ∀ column < s.firstInteresting, s.bitMatrix.isSet row column = true

/-- One counter after another with the given cells added. -/
structure Gathers (s : Sketch) (cells : Finset (Nat × Nat)) (after : Sketch) : Prop where
  precision : after.precision = s.precision
  seed : after.seed = s.seed
  kept : s.KeepsMerged after
  valid : after.Valid
  truthful : after.Truthful
  cells : after.bitMatrix.cells = cells ∪ s.bitMatrix.cells

theorem Collects.isSet (collects : s.Collects pair after) {row column : Nat} (small : column < 64)
    (set : s.bitMatrix.isSet row column = true) : after.bitMatrix.isSet row column = true := by
  have member : (row, column) ∈ after.bitMatrix.cells := by
    rw [collects.cells]
    exact Finset.mem_insert_of_mem (BitMatrix.mem_cells.mpr ⟨small, set⟩)
  exact (BitMatrix.mem_cells.mp member).2

/-- What is passed over stays full, and a window that moves looks for gaps anew. -/
theorem Collects.truthful (collects : s.Collects pair after) (truthful : s.Truthful) :
    after.Truthful := by
  intro row small column before
  rw [collects.precision] at small
  rcases collects.interesting with same | full
  · have width : column < 64 :=
      before.trans_le (collects.valid.interesting.trans collects.valid.offset_lt.le)
    exact collects.isSet width (truthful row small column (same ▸ before))
  · exact full row small column before

theorem collect_gathers (valid : s.Valid) (truthful : s.Truthful)
    (inside : pair.InRange s.precision) (run : s.collect pair = .ok after) :
    s.Gathers {pair.cell} after := by
  rcases collect_cases valid inside run with ⟨rfl, known⟩ | ⟨_, collects⟩
  · have set : pair.cell ∈ after.bitMatrix.cells := by
      rcases known with passed | set
      · exact BitMatrix.cell_mem_cells.mpr (truthful pair.row inside.1 pair.column passed)
      · exact set
    exact ⟨rfl, rfl, .refl after, valid, truthful,
      (Finset.union_eq_right.mpr (Finset.singleton_subset_iff.mpr set)).symm⟩
  · exact ⟨collects.precision, collects.seed, collects.keepsMerged, collects.valid,
      collects.truthful truthful, collects.cells⟩

theorem collectAll_cons : s.collectAll (pair :: coupons) = .ok after ↔
    ∃ next, s.collect pair = .ok next ∧ next.collectAll coupons = .ok after := by
  rw [collectAll]
  cases s.collect pair <;> simp

theorem collectAll_gathers (valid : s.Valid) (truthful : s.Truthful)
    (inside : ∀ pair ∈ coupons, pair.InRange s.precision) (run : s.collectAll coupons = .ok after) :
    s.Gathers (coupons.map Pair.cell).toFinset after := by
  induction coupons generalizing s with
  | nil =>
    cases run
    exact ⟨rfl, rfl, .refl after, valid, truthful, (Finset.empty_union _).symm⟩
  | cons pair rest ih =>
    obtain ⟨next, collected, run⟩ := collectAll_cons.mp run
    have step := collect_gathers valid truthful (inside pair List.mem_cons_self) collected
    have later := ih step.valid step.truthful
      (fun other member => step.precision ▸ inside other (List.mem_cons_of_mem _ member)) run
    refine ⟨later.precision.trans step.precision, later.seed.trans step.seed,
      step.kept.trans later.kept, later.valid, later.truthful, ?_⟩
    rw [later.cells, step.cells, List.map_cons, List.toFinset_cons, Finset.union_left_comm,
      ← Finset.insert_eq, Finset.insert_union]

theorem new_valid (p : Precision) (seed : UInt64) :
    (new p seed).Valid ∧ (new p seed).bitMatrix = BitMatrix.zero p := by
  obtain ⟨wellFormed, width, items⟩ := PairTable.empty_spec p
  have matrix : (new p seed).bitMatrix = BitMatrix.zero p := by
    simp [bitMatrix, windowMatrix, new, items, BitMatrix.zero, Row.below, Row.single]
  have positive := p.rows_pos
  have start : windowOffset p 0 = 0 := windowOffset_eq_zero (by omega)
  refine ⟨⟨⟨wellFormed, width, Nat.zero_lt_succ 63, Or.inl ⟨rfl, rfl⟩, fun some => (some rfl).elim⟩,
    start.symm, rfl, le_refl 0, ?_⟩, matrix⟩
  rw [matrix, BitMatrix.count_eq_card, BitMatrix.cells_zero]
  rfl

theorem new_truthful (p : Precision) (seed : UInt64) : (new p seed).Truthful :=
  fun _ _ column before => (Nat.not_lt_zero column before).elim

theorem Valid.dropHistory (valid : s.Valid) : s.dropHistory.Valid :=
  ⟨valid.toLayout.congr rfl rfl rfl rfl, valid.offset_eq, valid.windowed, valid.interesting, valid.count⟩

theorem newMerged_valid (p : Precision) (seed : UInt64) :
    (newMerged p seed).Valid ∧ (newMerged p seed).bitMatrix = BitMatrix.zero p :=
  ⟨(new_valid p seed).1.dropHistory, (new_valid p seed).2⟩

theorem newMerged_truthful (p : Precision) (seed : UInt64) : (newMerged p seed).Truthful :=
  new_truthful p seed

theorem collectAll_cells {p : Precision} {seed : UInt64}
    (inside : ∀ coupon ∈ coupons, coupon.InRange p) (run : (new p seed).collectAll coupons = .ok s) :
    s.precision = p ∧ s.bitMatrix.cells = (coupons.map Pair.cell).toFinset := by
  obtain ⟨valid, matrix⟩ := new_valid p seed
  have gathers := collectAll_gathers valid (new_truthful p seed) inside run
  refine ⟨gathers.precision, ?_⟩
  rw [gathers.cells, matrix, BitMatrix.cells_zero, Finset.union_empty]

/-- The counter of some coupons; the empty one where they lead to a fault. -/
def ofCoupons (p : Precision) (seed : UInt64) (coupons : List Pair) : Sketch :=
  match (new p seed).collectAll coupons with
  | .ok s => s
  | .error _ => new p seed

theorem ofCoupons_valid {p : Precision} {seed : UInt64} (inside : ∀ coupon ∈ coupons, coupon.InRange p) :
    (ofCoupons p seed coupons).Valid := by
  have empty := (new_valid p seed).1
  unfold ofCoupons
  split
  · rename_i s run
    exact (collectAll_gathers empty (new_truthful p seed) inside run).valid
  · exact empty

/-- The counter is the set of the coupons it was given: each cell of the matrix is set
for a coupon of the run and for no other reason, each distinct coupon is counted once,
and a coupon that is there already, or is passed over, changes nothing at all. -/
theorem collectAll_refines_insertion (p : Precision) (seed : UInt64) (coupons : List Pair)
    (inside : ∀ coupon ∈ coupons, coupon.InRange p) (s : Sketch)
    (run : (new p seed).collectAll coupons = .ok s) :
    ∃ m, s.bitMatrix? = .ok m ∧ m.size = p.rows ∧
      (∀ row < p.rows, ∀ column < 64,
        (m.isSet row column = true ↔ Pair.pack row column ∈ coupons)) ∧
      s.numCoupons = coupons.toFinset.card ∧
      (∀ coupon, coupon.InRange p → coupon.column < s.firstInteresting → coupon ∈ coupons) ∧
      ∀ coupon, coupon.InRange p → m.isSet coupon.row coupon.column = true →
        s.collect coupon = .ok s := by
  obtain ⟨valid, matrix⟩ := new_valid p seed
  have gathers := collectAll_gathers valid (new_truthful p seed) inside run
  have precision : s.precision = p := gathers.precision
  have cells : s.bitMatrix.cells = (coupons.map Pair.cell).toFinset := by
    rw [gathers.cells, matrix, BitMatrix.cells_zero, Finset.union_empty]
  have member (coupon : Pair) :
      s.bitMatrix.isSet coupon.row coupon.column = true ↔ coupon ∈ coupons := by
    rw [← BitMatrix.cell_mem_cells, cells, List.mem_toFinset,
      List.mem_map_of_injective Pair.cell_injective]
  have rows := p.rows_le
  refine ⟨s.bitMatrix, gathers.valid.bitMatrix?_eq, ?_, ?_, ?_, ?_, ?_⟩
  · rw [gathers.valid.size_bitMatrix, precision]
  · intro row small column narrow
    rw [← member, Pair.row_pack (by omega) narrow, Pair.column_pack (by omega) narrow]
  · rw [← gathers.valid.count, BitMatrix.count_eq_card, cells, ← Finset.card_image_of_injective
      coupons.toFinset Pair.cell_injective]
    congr 1
    ext cell
    simp
  · intro coupon small passed
    exact (member coupon).mp (gathers.truthful _ (precision ▸ small.1) _ passed)
  · intro coupon small set
    exact collect_of_mem gathers.valid (precision ▸ small) (BitMatrix.cell_mem_cells.mpr set)

/-- The first coupons of 16 rows, column after column. -/
def columnCoupons (count : Nat) : List Pair :=
  (List.range count).map fun i => Pair.pack (i % 16) (i / 16)

theorem columnCoupons_succ (count : Nat) :
    columnCoupons (count + 1) = columnCoupons count ++ [Pair.pack (count % 16) (count / 16)] := by
  rw [columnCoupons, List.range_succ, List.map_append]
  rfl

theorem columnCoupons_inRange {count : Nat} (few : count ≤ 1024) :
    ∀ coupon ∈ columnCoupons count, coupon.InRange Precision.least := by
  intro coupon member
  obtain ⟨i, listed, rfl⟩ := List.mem_map.mp member
  have less := List.mem_range.mp listed
  have row : (Pair.pack (i % 16) (i / 16)).row = i % 16 := Pair.row_pack (by omega) (by omega)
  refine ⟨?_, fun vacant => ?_⟩
  · rw [row]
    exact Nat.mod_lt _ (by decide)
  · rw [vacant, Pair.row_vacant] at row
    omega

/-- With 54 coupons in 16 rows the window has been opened and moved once. -/
theorem collectAll_refines_insertion_moved :
    ∃ s m, (new Precision.least 9001).collectAll (columnCoupons 54) = .ok s ∧
      s.offset = 1 ∧ s.firstInteresting = 1 ∧ s.bitMatrix? = .ok m ∧
      m.isSet 5 3 = true ∧ m.isSet 6 3 = false ∧ s.numCoupons = 54 ∧
      s.collect (Pair.pack 3 0) = .ok s := by
  have moved : ((new Precision.least 9001).collectAll (columnCoupons 54)).toOption.map
      (fun s => (s.offset, s.firstInteresting)) = some (1, 1) := by decide +kernel
  obtain ⟨s, run, shape⟩ := exists_ok_of_map moved
  obtain ⟨offset, interesting⟩ := Prod.mk.inj shape
  obtain ⟨m, matrix, _, cells, count, _, again⟩ :=
    collectAll_refines_insertion _ 9001 _ (columnCoupons_inRange (by decide)) s run
  refine ⟨s, m, run, offset, interesting, matrix, ?_, ?_, ?_, ?_⟩
  · rw [cells 5 (by decide) 3 (by decide)]
    decide +kernel
  · rw [Bool.eq_false_iff, ne_eq, cells 6 (by decide) 3 (by decide)]
    decide +kernel
  · rw [count]
    decide +kernel
  · exact again _ (by decide) ((cells 3 (by decide) 0 (by decide)).mpr (by decide +kernel))

end DistinctCount.Sketch
