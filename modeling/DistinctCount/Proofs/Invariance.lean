import DistinctCount.Proofs.Accepted

/-! The representation of a counter holds from the start and is kept by every update that
does not end in a fault. An update may be given any word. One that names no row of the
matrix ends in a fault unless its column is passed over, and the word that marks free slots
changes nothing until the window has reached the last column. -/
namespace DistinctCount

namespace PairTable

variable {t : PairTable} {item : Pair}

/-- The search for an item that is too wide for its table starts outside the slots. -/
theorem Consistent.locate_wide (consistent : t.Consistent) (wide : 2 ^ t.validBits ≤ item.toNat) :
    locate t.slots (t.validBits - t.lgSize) item = .error .index := by
  have outside : ¬ item.toNat >>> (t.validBits - t.lgSize) < t.slots.size := by
    rw [Nat.not_lt, consistent.size, Nat.shiftRight_eq_div_pow,
      Nat.le_div_iff_mul_le (Nat.two_pow_pos _), ← Nat.pow_add,
      Nat.add_sub_cancel' consistent.lgSize_lt.le]
    exact wide
  have some_slot : 0 < t.slots.size := consistent.size ▸ Nat.two_pow_pos _
  obtain ⟨more, size⟩ := Nat.exists_eq_succ_of_ne_zero some_slot.ne'
  rw [locate, size, search, dif_neg outside]

/-- The name of a free slot counts as present, since the search for it ends at one. -/
theorem WellFormed.insert_vacant (wf : t.WellFormed) (narrow : Pair.vacant.toNat < 2 ^ t.validBits) :
    t.insert Pair.vacant = .ok (t, false) := by
  have start := wf.toConsistent.start narrow
  have absent : Pair.vacant ∉ stored t.slots := fun member => (mem_stored.mp member).1 rfl
  obtain ⟨index, first⟩ := exists_firstFree start wf.room
  rw [insert_eq, first.locate absent start]
  simp only [first.free, if_true]

end PairTable

namespace Sketch

variable {s after : Sketch} {pair : Pair} {coupons : List Pair}

/-! ### One update -/

theorem Layout.record_outside (layout : s.Layout) (outside : s.precision.rows ≤ pair.row) :
    s.withTable (·.insert pair) = .error .index ∧
      (s.window ≠ #[] → s.record pair = .error .index) := by
  have wide : 2 ^ s.table.validBits ≤ pair.toNat := by
    rw [← Nat.not_lt, layout.width, ← Pair.row_lt_rows_iff]
    exact Nat.not_lt.mpr outside
  have located := layout.table.locate_wide wide
  have inserted : s.withTable (·.insert pair) = .error .index := by
    rw [withTable_eq, PairTable.insert_eq, located]
  refine ⟨inserted, fun allocated => ?_⟩
  have size := layout.size_window allocated
  unfold record
  split
  · rw [withTable_eq, PairTable.erase_eq, located]
  · split
    · rw [withWindow_eq, setWindowBit, dif_neg (by omega)]
    · exact inserted

theorem Layout.collect_outside (layout : s.Layout) (outside : s.precision.rows ≤ pair.row)
    (met : s.firstInteresting ≤ pair.column) : s.collect pair = .error .index := by
  obtain ⟨inserted, recorded⟩ := layout.record_outside outside
  rw [collect, if_neg (Nat.not_lt.mpr met)]
  split
  · rw [collectSparse, inserted]
  · rename_i allocated
    rw [collectWindowed, recorded (by simpa using allocated)]

/-- Behind the window the name of a free slot is taken for a pair of the table. -/
theorem Layout.collect_vacant (layout : s.Layout) (inside : Pair.vacant.row < s.precision.rows)
    (behind : s.offset < lastWindowOffset) : s.collect Pair.vacant = .ok s := by
  have narrow : Pair.vacant.toNat < 2 ^ s.table.validBits :=
    layout.width ▸ Pair.row_lt_rows_iff.mp inside
  have inserted : s.withTable (·.insert Pair.vacant) = .ok (s, false) := by
    rw [withTable_eq, layout.table.insert_vacant narrow]
  have late : s.offset + 8 ≤ Pair.vacant.column := by
    rw [Pair.column_vacant]
    exact Nat.add_le_add_right behind 7
  rw [collect]
  split
  · rfl
  · split
    · rw [collectSparse, inserted]
    · rw [collectWindowed, record, if_neg (by omega), if_neg (by omega), inserted]

/-- Coupons that leave the counter as it is: those of a column that is passed over, those
that are there already, and the word that names a free slot of the table. -/
def Ignores (s : Sketch) (pair : Pair) : Prop :=
  pair.column < s.firstInteresting ∨ pair.cell ∈ s.bitMatrix.cells ∨
    pair = Pair.vacant ∧ s.offset < lastWindowOffset

/-- A coupon that is not ignored has a name that the table can hold, should it go there. -/
theorem named_of_not_ignores (fresh : ¬ s.Ignores pair) (behind : s.offset + 8 ≤ pair.column) :
    pair ≠ Pair.vacant := by
  rintro rfl
  rw [Pair.column_vacant] at behind
  have within : s.offset < 56 := by omega
  exact fresh (Or.inr (Or.inr ⟨rfl, within⟩))

theorem collect_of_ignores (valid : s.Valid) (ignored : s.Ignores pair)
    (met : s.firstInteresting ≤ pair.column → pair.row < s.precision.rows) :
    s.collect pair = .ok s := by
  by_cases passed : pair.column < s.firstInteresting
  · rw [collect, if_pos passed]
  have inside := met (Nat.not_lt.mp passed)
  by_cases hidden : pair = Pair.vacant ∧ s.offset < lastWindowOffset
  · obtain ⟨rfl, behind⟩ := hidden
    exact valid.collect_vacant inside behind
  have set : pair.cell ∈ s.bitMatrix.cells := (ignored.resolve_left passed).resolve_right hidden
  rw [collect, if_neg passed]
  split
  · rename_i none
    have none : s.window = #[] := by simpa using none
    have stored := (valid.isSet_sparse none inside).mp (BitMatrix.cell_mem_cells.mp set)
    exact (collectSparse_spec valid none (valid.inRange stored)).1 set
  · rename_i allocated
    refine (collectWindowed_spec valid (by simpa using allocated) inside fun behind => ?_).1 set
    exact PairTable.real_of_mem
      ((valid.isSet_behind inside behind).mp (BitMatrix.cell_mem_cells.mp set))

theorem row_lt_of_collect (layout : s.Layout) (run : s.collect pair = .ok after)
    (met : s.firstInteresting ≤ pair.column) : pair.row < s.precision.rows := by
  by_contra outside
  rw [layout.collect_outside (Nat.not_lt.mp outside) met] at run
  contradiction

/-- An update with any word that does not end in a fault either ignores it or collects it. -/
theorem collect_step (valid : s.Valid) (run : s.collect pair = .ok after) :
    s.Ignores pair ∧ after = s ∨ ¬ s.Ignores pair ∧ s.Collects pair after := by
  by_cases ignored : s.Ignores pair
  · rw [collect_of_ignores valid ignored (row_lt_of_collect valid.toLayout run)] at run
    exact Or.inl ⟨ignored, (Except.ok.inj run).symm⟩
  · refine Or.inr ⟨ignored, ?_⟩
    have met : ¬ pair.column < s.firstInteresting := fun passed => ignored (Or.inl passed)
    have clear : pair.cell ∉ s.bitMatrix.cells := fun set => ignored (Or.inr (Or.inl set))
    have inside := row_lt_of_collect valid.toLayout run (Nat.not_lt.mp met)
    rw [collect, if_neg met] at run
    split at run
    · rename_i none
      have none : s.window = #[] := by simpa using none
      have inRange := valid.inRange_sparse none inside (named_of_not_ignores ignored)
      exact (collectSparse_spec valid none inRange).2 clear after run
    · rename_i allocated
      exact (collectWindowed_spec valid (by simpa using allocated) inside
        (named_of_not_ignores ignored)).2 clear after run

/-! ### Runs of updates -/

structure Keeps (s after : Sketch) : Prop where
  precision : after.precision = s.precision
  seed : after.seed = s.seed
  kept : s.KeepsMerged after
  settled : after.Settled

theorem Settled.collect_keeps (settled : s.Settled) (run : s.collect pair = .ok after) :
    s.Keeps after := by
  rcases collect_step settled.toValid run with ⟨_, rfl⟩ | ⟨_, collects⟩
  · exact ⟨rfl, rfl, .refl after, settled⟩
  · refine ⟨collects.precision, collects.seed, collects.keepsMerged, collects.valid, ?_,
      collects.freshHistory settled.history⟩
    rcases collects.offset with same | within
    · exact same ▸ settled.offset_le
    · exact within

theorem Settled.collectAll_keeps (settled : s.Settled) (run : s.collectAll coupons = .ok after) :
    s.Keeps after := by
  induction coupons generalizing s with
  | nil =>
    cases run
    exact ⟨rfl, rfl, .refl after, settled⟩
  | cons coupon rest ih =>
    obtain ⟨next, collected, run⟩ := collectAll_cons.mp run
    have step := settled.collect_keeps collected
    have later := ih step.settled run
    exact ⟨later.precision.trans step.precision, later.seed.trans step.seed,
      step.kept.trans later.kept, later.settled⟩

/-! ### The representation -/

theorem Representation.settled (parts : s.Representation) : s.Settled := by
  have within : s.offset ≤ 56 := parts.offset_le
  have windowed : s.flavor.windowed = !s.window.isEmpty := by
    rw [Bool.eq_iff_iff, ← not_iff_not, Bool.not_eq_true, not_windowed_iff, ← parts.unallocated]
    simp
  have window : s.window = #[] ∧ s.offset = 0 ∨ s.window.size = s.precision.rows := by
    by_cases none : s.window = #[]
    · have few := (windowed_eq_iff.mp windowed).mp none
      exact Or.inl ⟨none, by rw [parts.offset_eq, windowOffset_eq_zero (by omega)]⟩
    · exact Or.inr (parts.allocated none)
  have layout : s.Layout := ⟨parts.table, parts.width, by omega, window, parts.outside⟩
  obtain ⟨m, expanded, count⟩ := parts.count
  cases layout.bitMatrix?_eq.symm.trans expanded
  refine ⟨⟨layout, parts.offset_eq, windowed, parts.interesting, count⟩, within, fun blank => ?_⟩
  obtain ⟨kxp, accumulated⟩ := parts.history (blank.imp_right beq_iff_eq.mpr)
  rw [Hip.start, ← kxp, ← accumulated]

/-- The representation is an invariant of counters. A fresh counter has it, merged or not,
and from any counter that has it every update that does not end in a fault leads to one
that has it again. So it holds after any run of updates, whatever words they are given.
A counter without history stays one, with the mass of an empty matrix and nothing
accumulated. -/
theorem representation_invariant :
    (∀ p seed, (new p seed).Representation ∧ (newMerged p seed).Representation) ∧
    ∀ s : Sketch, s.Representation →
      (∀ pair after, s.collect pair = .ok after → after.Representation) ∧
      ∀ coupons after, s.collectAll coupons = .ok after →
        after.Representation ∧ after.precision = s.precision ∧ after.merged = s.merged ∧
        (s.merged = true → after.hipState.kxp = s.precision.rowsFloat ∧
          after.hipState.accumulated = 0.0) := by
  refine ⟨fun p seed => ⟨(new_settled p seed).representation,
    (newMerged_settled p seed).representation⟩, fun s parts => ⟨?_, ?_⟩⟩
  · intro pair after run
    exact (parts.settled.collect_keeps run).settled.representation
  · intro coupons after run
    have keeps := parts.settled.collectAll_keeps run
    refine ⟨keeps.settled.representation, keeps.precision, keeps.kept.merged, fun lost => ?_⟩
    rw [keeps.kept.hipState lost]
    exact parts.history (Or.inl lost)

/-- Eight coupons, of which the first one fills the gap of the image with a gap. -/
def fillingCoupons : List Pair := Pair.pack 0 0 :: (List.range 7).map fun row => Pair.pack row 30

/-- They move the window of the merged counter from column 1 to column 2. -/
theorem representation_invariant_merged : ∃ s after,
    ofImage 9001 (gapImage 0) = .ok s ∧ s.offset = 1 ∧ s.Representation ∧
    s.collectAll fillingCoupons = .ok after ∧
    after.offset = 2 ∧ after.numCoupons = 70 ∧ after.Representation ∧ after.merged = true ∧
    after.hipState.kxp = s.precision.rowsFloat := by
  have shape : (ofImage 9001 (gapImage 0)).toOption.map (fun s => (s.offset, s.merged,
      (s.collectAll fillingCoupons).toOption.map fun after => (after.offset, after.numCoupons))) =
      some (1, true, some (2, 70)) := by decide +kernel
  obtain ⟨s, read, parts⟩ := exists_ok_of_map shape
  simp only [Prod.mk.injEq] at parts
  obtain ⟨offset, lost, moved⟩ := parts
  obtain ⟨after, run, parts⟩ := exists_ok_of_map moved
  simp only [Prod.mk.injEq] at parts
  have represents := (ofImage_represents read).2.2
  obtain ⟨holds, _, merged, blank⟩ := (representation_invariant.2 s represents).2 _ after run
  exact ⟨s, after, read, offset, represents, run, parts.1, parts.2, holds, merged.trans lost,
    (blank lost).1⟩

end Sketch
end DistinctCount
