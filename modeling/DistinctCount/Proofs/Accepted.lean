import DistinctCount.Proofs.RoundTrip

/-! What is known of a counter that was accepted from an image. Its parts are those of a
counter of its coupons, whatever bytes it came from. Only the first interesting column is
taken over as it is written. It may lie behind a gap, which the table of the image shows,
and then the coupons of that gap are passed over. -/
namespace DistinctCount.Sketch

variable {s after : Sketch} {coupon : Pair} {seed : UInt64} {bytes : List UInt8}

/-! ### The parts of an accepted counter -/

/-- The representation of a counter: the layout is the one for the number of coupons, the
table stores the cells that the window cannot say, the coupons are the cells of the
matrix, and there is no history where nothing was seen or a merge has lost it. -/
structure Representation (s : Sketch) : Prop where
  offset_eq : s.offset = windowOffset s.precision s.numCoupons
  offset_le : s.offset ≤ lastWindowOffset
  unallocated : s.window = #[] ↔ s.flavor = .empty ∨ s.flavor = .sparse
  allocated : s.window ≠ #[] → s.window.size = s.precision.rows
  table : s.table.WellFormed
  width : s.table.validBits = s.precision.pairBits
  inRange : ∀ pair ∈ s.table.items, pair.InRange s.precision
  outside : s.window ≠ #[] → ∀ pair ∈ s.table.items,
    pair.column < s.offset ∨ s.offset + 8 ≤ pair.column
  interesting : s.firstInteresting ≤ s.offset
  count : ∃ m, s.bitMatrix? = .ok m ∧ m.count = s.numCoupons
  consistent : s.isConsistent = true
  history : s.merged = true ∨ s.isEmpty = true →
    s.hipState.kxp = s.precision.rowsFloat ∧ s.hipState.accumulated = 0.0

theorem not_windowed_iff {flavor : Flavor} :
    flavor.windowed = false ↔ flavor = .empty ∨ flavor = .sparse := by
  cases flavor <;> simp [Flavor.windowed]

theorem Settled.isConsistent (settled : s.Settled) : s.isConsistent = true := by
  have small : s.bitMatrix.count % 2 ^ 32 = s.numCoupons := by
    rw [settled.count, Nat.mod_eq_of_lt settled.numCoupons_lt]
  have within : s.offset ≤ lastWindowOffset := settled.offset_le
  simp [Sketch.isConsistent, within, settled.windowed, small]

theorem Settled.hipState_eq (settled : s.Settled) (blank : s.merged = true ∨ s.isEmpty = true) :
    s.hipState = Hip.start s.precision := by
  exact settled.history (blank.imp_right beq_iff_eq.mp)

theorem Settled.representation (settled : s.Settled) : s.Representation where
  offset_eq := settled.offset_eq
  offset_le := settled.offset_le
  unallocated := by
    rw [← not_windowed_iff, settled.windowed, Bool.not_eq_false', Array.isEmpty_iff]
  allocated := settled.size_window
  table := settled.table
  width := settled.width
  inRange := fun _ => settled.inRange
  outside := settled.outside
  interesting := settled.interesting
  count := ⟨_, settled.bitMatrix?_eq, settled.count⟩
  consistent := settled.isConsistent
  history := by
    intro blank
    rw [settled.hipState_eq blank]
    exact ⟨rfl, rfl⟩

/-- Whatever bytes are accepted, the counter made of them has the precision, the layout,
the table, the matrix and the history that its number of coupons calls for. -/
theorem ofImage_represents (read : ofImage seed bytes = .ok s) :
    s.seed = seed ∧ (4 ≤ s.precision.lgK ∧ s.precision.lgK ≤ 26) ∧ s.Representation := by
  obtain ⟨settled, _, same⟩ := ofImage_sound read
  exact ⟨same, ⟨s.precision.four_le, s.precision.le_twentySix⟩, settled.representation⟩

/-- An image of 16 rows and 62 coupons, with the window at column 1. The table names a gap
in column 0 of row 0 and a cell in column 20 of row 3. -/
def gapImage (firstInteresting : UInt8) : List UInt8 :=
  [0x06, 0x01, 0x10, 0x04, firstInteresting, 0x1a, 0xcc, 0x93, 0x3e, 0x00, 0x00, 0x00,
    0x02, 0x00, 0x00, 0x00, 0x01, 0x00, 0x00, 0x00, 0x02, 0x00, 0x00, 0x00,
    0x00, 0x00, 0x00, 0x20, 0x01, 0x00, 0x00, 0x00, 0x17, 0x3f, 0x73, 0x00]

theorem ofImage_represents_gap : ∃ s, ofImage 9001 (gapImage 0) = .ok s ∧ s.offset = 1 ∧
    s.table.items = [Pair.pack 0 0, Pair.pack 3 20] ∧ s.merged = true ∧
    s.seed = 9001 ∧ (4 ≤ s.precision.lgK ∧ s.precision.lgK ≤ 26) ∧ s.Representation := by
  have shape : (ofImage 9001 (gapImage 0)).toOption.map
      (fun s => (s.offset, s.table.items, s.merged)) =
      some (1, [Pair.pack 0 0, Pair.pack 3 20], true) := by decide +kernel
  obtain ⟨s, read, parts⟩ := exists_ok_of_map shape
  simp only [Prod.mk.injEq] at parts
  exact ⟨s, read, parts.1, parts.2.1, parts.2.2, ofImage_represents read⟩

/-! ### The first interesting column -/

/-- The columns that updates pass over are full exactly where the table names no gap
in them. -/
theorem Settled.truthful_iff (settled : s.Settled) :
    s.Truthful ↔ ∀ pair ∈ s.table.items, s.firstInteresting ≤ pair.column := by
  have interesting := settled.interesting
  constructor
  · intro truthful pair member
    by_contra passed
    have before : pair.column < s.firstInteresting := by omega
    have inside := settled.row_lt member
    exact (settled.isSet_before inside (by omega)).mp (truthful _ inside _ before) member
  · intro late row inside column before
    have rows := s.precision.rows_le
    obtain ⟨pair, rfl, rfl⟩ := Pair.exists_cell (inside.trans_le rows)
      (before.trans_le (interesting.trans settled.offset_lt.le))
    refine (settled.isSet_before inside (by omega)).mpr fun member => ?_
    have := late pair member
    omega

/-- A coupon is taken in: its cell is set afterwards, and it is counted where the cell was
clear before and only there. -/
def TakesIn (s : Sketch) (coupon : Pair) (after : Sketch) : Prop :=
  after.bitMatrix.isSet coupon.row coupon.column = true ∧
    after.numCoupons =
      if s.bitMatrix.isSet coupon.row coupon.column then s.numCoupons else s.numCoupons + 1

theorem takesIn_self (set : s.bitMatrix.isSet coupon.row coupon.column = true) :
    s.TakesIn coupon s :=
  ⟨set, (if_pos set).symm⟩

theorem Collects.takesIn (collects : s.Collects coupon after)
    (clear : coupon.cell ∉ s.bitMatrix.cells) : s.TakesIn coupon after := by
  have set : coupon.cell ∈ after.bitMatrix.cells := by
    rw [collects.cells]
    exact Finset.mem_insert_self _ _
  rw [BitMatrix.cell_mem_cells] at clear set
  exact ⟨set, by rw [if_neg clear, collects.numCoupons]⟩

/-- A coupon is taken in, or it is passed over and lost, which befalls just the gaps in
columns that updates pass over. -/
theorem Settled.collect_takesIn (settled : s.Settled) (inside : coupon.InRange s.precision)
    (run : s.collect coupon = .ok after) :
    s.TakesIn coupon after ∨
      after = s ∧ coupon.column < s.firstInteresting ∧ coupon ∈ s.table.items := by
  rcases collect_cases settled.toValid inside run with ⟨rfl, passed | set⟩ | ⟨clear, collects⟩
  · have before := passed.trans_le settled.interesting
    by_cases gap : coupon ∈ after.table.items
    · exact Or.inr ⟨rfl, passed, gap⟩
    · exact Or.inl (takesIn_self ((settled.isSet_before inside.1 before).mpr gap))
  · exact Or.inl (takesIn_self (BitMatrix.cell_mem_cells.mp set))
  · exact Or.inl (collects.takesIn clear)

theorem Settled.collect_lost (settled : s.Settled) (passed : coupon.column < s.firstInteresting)
    (gap : coupon ∈ s.table.items) : s.collect coupon = .ok s ∧ ¬ s.TakesIn coupon s := by
  have clear := settled.isSet_before (settled.row_lt gap) (passed.trans_le settled.interesting)
  exact ⟨if_pos passed, fun takesIn => clear.mp takesIn.1 gap⟩

/-- The first interesting column of an accepted image is true of the matrix exactly where
the table of the image names no gap before it, and exactly where every coupon whose
update does not end in a fault is taken in. The coupons that are lost otherwise are those
gaps: they leave the counter as it is. -/
theorem ofImage_truthful_iff (read : ofImage seed bytes = .ok s) :
    (s.Truthful ↔ ∀ pair ∈ s.table.items, s.firstInteresting ≤ pair.column) ∧
    (s.Truthful ↔ ∀ coupon : Pair, coupon.InRange s.precision →
      ∀ after, s.collect coupon = .ok after → s.TakesIn coupon after) ∧
    ∀ coupon : Pair, coupon.InRange s.precision → ∀ after, s.collect coupon = .ok after →
      (¬ s.TakesIn coupon after ↔
        coupon.column < s.firstInteresting ∧ coupon ∈ s.table.items) ∧
      (¬ s.TakesIn coupon after → after = s) := by
  obtain ⟨settled, _, _⟩ := ofImage_sound read
  have lost (coupon : Pair) (inside : coupon.InRange s.precision) (after : Sketch)
      (run : s.collect coupon = .ok after) : ¬ s.TakesIn coupon after ↔
        coupon.column < s.firstInteresting ∧ coupon ∈ s.table.items := by
    constructor
    · intro missed
      exact ((settled.collect_takesIn inside run).resolve_left missed).2
    · rintro ⟨passed, gap⟩
      obtain ⟨same, missed⟩ := settled.collect_lost passed gap
      cases same.symm.trans run
      exact missed
  refine ⟨settled.truthful_iff, ?_, fun coupon inside after run =>
    ⟨lost coupon inside after run, fun missed =>
      ((settled.collect_takesIn inside run).resolve_left missed).1⟩⟩
  rw [settled.truthful_iff]
  constructor
  · intro late coupon inside after run
    by_contra missed
    obtain ⟨passed, gap⟩ := (lost coupon inside after run).mp missed
    have := late coupon gap
    omega
  · intro taken pair member
    by_contra passed
    obtain ⟨same, missed⟩ := settled.collect_lost (by omega) member
    exact missed (taken pair (settled.inRange member) s same)

/-- With the column as it is, the coupon of the gap is taken in and counted. -/
theorem ofImage_truthful_iff_gap : ∃ s after, ofImage 9001 (gapImage 0) = .ok s ∧ s.Truthful ∧
    s.collect (Pair.pack 0 0) = .ok after ∧ s.TakesIn (Pair.pack 0 0) after ∧
    after.numCoupons = 63 := by
  have shape : (ofImage 9001 (gapImage 0)).toOption.map (fun s =>
      (s.table.items.all fun pair => s.firstInteresting ≤ pair.column,
        decide (Pair.InRange s.precision (Pair.pack 0 0)),
        (s.collect (Pair.pack 0 0)).toOption.map (·.numCoupons))) =
      some (true, true, some 63) := by decide +kernel
  obtain ⟨s, read, parts⟩ := exists_ok_of_map shape
  simp only [Prod.mk.injEq, decide_eq_true_eq] at parts
  obtain ⟨late, inside, counted⟩ := parts
  obtain ⟨after, run, coupons⟩ := exists_ok_of_map counted
  obtain ⟨columns, updates, _⟩ := ofImage_truthful_iff read
  have truthful := columns.mpr (List.all_iff_forall_prop.mp late)
  exact ⟨s, after, read, truthful, run, updates.mp truthful _ inside after run, coupons⟩

/-- The same image with 1 for its first interesting column is accepted as well. The
coupon of the gap in column 0 is then neither taken in nor counted. -/
theorem ofImage_untruthful : ∃ s, ofImage 9001 (gapImage 1) = .ok s ∧ ¬ s.Truthful ∧
    Pair.InRange s.precision (Pair.pack 0 0) ∧ s.collect (Pair.pack 0 0) = .ok s ∧
    ¬ s.TakesIn (Pair.pack 0 0) s ∧ s.numCoupons = 62 := by
  have shape : (ofImage 9001 (gapImage 1)).toOption.map (fun s =>
      (s.firstInteresting, s.table.items, s.numCoupons)) =
      some (1, [Pair.pack 0 0, Pair.pack 3 20], 62) := by decide +kernel
  obtain ⟨s, read, parts⟩ := exists_ok_of_map shape
  simp only [Prod.mk.injEq] at parts
  obtain ⟨interesting, items, coupons⟩ := parts
  obtain ⟨settled, _, _⟩ := ofImage_sound read
  have gap : Pair.pack 0 0 ∈ s.table.items := by simp [items]
  have passed : (Pair.pack 0 0).column < s.firstInteresting := by
    rw [interesting]
    decide
  obtain ⟨same, missed⟩ := settled.collect_lost passed gap
  refine ⟨s, read, fun truthful => ?_, settled.inRange gap, same, missed, coupons⟩
  have := settled.truthful_iff.mp truthful _ gap
  omega

end DistinctCount.Sketch
