import DistinctCount.Proofs.LayingOut

/-! Collecting coupons refines insertion into a set. Each way of recording a cell
adds it to the matrix, and opening or moving the window leaves the matrix as it
is, so the cells of a counter are the coupons it has met. -/
namespace DistinctCount.Sketch

variable {s after : Sketch} {pair : Pair} {row column : Nat}

theorem testBit_setBit (byte : UInt8) {bit : Nat} (small : bit < 8) (other : Nat) :
    (byte ||| 1 <<< UInt8.ofNat bit).toNat.testBit other =
      (byte.toNat.testBit other || decide (bit = other)) := by
  have amount : (UInt8.ofNat bit).toNat % 8 = bit := by
    simp only [UInt8.toNat_ofNat']
    omega
  have power : 2 ^ bit < 2 ^ 8 := Nat.pow_lt_pow_right (by decide) small
  rw [UInt8.toNat_or, Nat.testBit_or, UInt8.toNat_shiftLeft, amount, UInt8.toNat_one,
    Nat.one_shiftLeft, Nat.mod_eq_of_lt power, Nat.testBit_two_pow]

theorem setBit_eq_self_iff (byte : UInt8) {bit : Nat} (small : bit < 8) :
    byte ||| 1 <<< UInt8.ofNat bit = byte ↔ byte.toNat.testBit bit = true := by
  constructor
  · intro same
    have bits := testBit_setBit byte small bit
    rw [same] at bits
    simpa using bits
  · intro set
    apply UInt8.toNat_inj.mp
    apply Nat.eq_of_testBit_eq
    intro other
    rw [testBit_setBit _ small]
    by_cases same : bit = other
    · simp [← same, set]
    · simp [same]

theorem windowBit_set {window : Array UInt8} (inside : row < window.size) (byte : UInt8)
    (otherRow bit : Nat) : windowBit (window.set row byte) otherRow bit =
      if otherRow = row then byte.toNat.testBit bit else windowBit window otherRow bit := by
  split
  · rename_i same
    simp [windowBit, same, inside]
  · rename_i different
    simp [windowBit, Array.getElem?_set_ne inside (Ne.symm different)]

theorem setWindowBit_spec {window : Array UInt8} {bit : Nat} (inside : row < window.size)
    (small : bit < 8) : ∃ changed,
      setWindowBit window row bit = .ok (changed, !windowBit window row bit) ∧
      changed.size = window.size ∧
      (∀ otherRow otherBit, windowBit changed otherRow otherBit =
        (windowBit window otherRow otherBit || decide (otherRow = row ∧ otherBit = bit))) ∧
      (windowBit window row bit = true → changed = window) := by
  have here : windowBit window row bit = window[row].toNat.testBit bit := by
    simp [windowBit, inside]
  have fixed := setBit_eq_self_iff window[row] small
  refine ⟨window.set row (window[row] ||| 1 <<< UInt8.ofNat bit), ?_, by simp, ?_, ?_⟩
  · rw [setWindowBit, dif_pos inside, here]
    simp only [Except.ok.injEq, Prod.mk.injEq, true_and]
    rw [Bool.eq_iff_iff, bne_iff_ne, Bool.not_eq_true', Bool.eq_false_iff, ne_eq, ne_eq, ← fixed]
    exact not_congr eq_comm
  · intro otherRow otherBit
    rw [windowBit_set inside]
    split
    · rename_i same
      subst same
      rw [testBit_setBit _ small]
      simp [windowBit, inside, eq_comm (a := bit)]
    · rename_i different
      simp [different]
  · intro set
    rw [here] at set
    simp [fixed.mpr set]

theorem windowBit_replicate (size row bit : Nat) :
    windowBit (Array.replicate size 0) row bit = false := by
  simp only [windowBit, Array.getD_eq_getD_getElem?, Array.getElem?_replicate]
  split <;> simp

theorem markAll_spec {pairs : List Pair} {window : Array UInt8}
    (inside : ∀ pair ∈ pairs, pair.row < window.size) (small : ∀ pair ∈ pairs, pair.column < 8) :
    ∃ marked, markAll pairs window = .ok marked ∧ marked.size = window.size ∧
      ∀ row bit, windowBit marked row bit =
        (windowBit window row bit || decide (∃ pair ∈ pairs, pair.cell = (row, bit))) := by
  induction pairs generalizing window with
  | nil => exact ⟨window, rfl, rfl, by simp⟩
  | cons pair rest ih =>
    obtain ⟨changed, run, size, bits, _⟩ :=
      setWindowBit_spec (inside pair (by simp)) (small pair (by simp))
    obtain ⟨marked, runRest, sizeRest, bitsRest⟩ := @ih changed
      (fun other member => size ▸ inside other (by simp [member]))
      (fun other member => small other (by simp [member]))
    refine ⟨marked, ?_, sizeRest.trans size, ?_⟩
    · simp only [markAll, run, runRest]
    · intro row bit
      rw [bitsRest, bits, Bool.or_assoc, ← Bool.decide_or]
      congr 1
      apply decide_eq_decide.mpr
      simp only [List.mem_cons, exists_eq_or_imp, Pair.cell, Prod.mk.injEq, eq_comm (b := row),
        eq_comm (b := bit)]

/-- The pairs of the first eight columns, marked in a clear window. -/
theorem markEarly_spec {p : Precision} {pairs : List Pair} (inside : ∀ pair ∈ pairs, pair.row < p.rows) :
    ∃ marked, markAll (pairs.filter fun pair => decide (pair.column < 8))
        (Array.replicate p.rows 0) = .ok marked ∧ marked.size = p.rows ∧
      ∀ pair : Pair, windowBit marked pair.row pair.column = true ↔ pair ∈ pairs ∧ pair.column < 8 := by
  obtain ⟨marked, run, size, bits⟩ := @markAll_spec
    (pairs.filter fun pair => decide (pair.column < 8)) (Array.replicate p.rows 0)
    (fun pair member => by simpa using inside pair (List.mem_filter.mp member).1)
    (fun pair member => by simpa using (List.mem_filter.mp member).2)
  refine ⟨marked, run, by simpa using size, fun pair => ?_⟩
  rw [bits, windowBit_replicate, Bool.false_or, decide_eq_true_eq]
  simp only [List.mem_filter, decide_eq_true_eq]
  constructor
  · rintro ⟨other, early, same⟩
    exact Pair.cell_injective same ▸ early
  · intro early
    exact ⟨pair, early, rfl⟩

theorem withTable_eq (s : Sketch) (change : PairTable → Except Fault (PairTable × Bool)) :
    s.withTable change = match change s.table with
      | .error fault => .error fault
      | .ok (table, novel) => .ok ({ s with table := table }, novel) := rfl

theorem withWindow_eq (s : Sketch) (change : Array UInt8 → Except Fault (Array UInt8 × Bool)) :
    s.withWindow change = match change s.window with
      | .error fault => .error fault
      | .ok (window, novel) => .ok ({ s with window := window }, novel) := rfl

namespace Layout

/-- A cell that comes to be set while table and window keep what they say of all
others is added to the matrix. -/
theorem cells_insert {a b : Sketch} (before : a.Layout) (after : b.Layout)
    (precision : b.precision = a.precision) (offset : b.offset = a.offset)
    (items : ∀ other ≠ pair, (other ∈ b.table.items ↔ other ∈ a.table.items))
    (bits : ∀ other ≠ pair, a.offset ≤ other.column →
      windowBit b.window other.row (other.column - a.offset) =
        windowBit a.window other.row (other.column - a.offset))
    (set : pair.cell ∈ b.bitMatrix.cells) :
    b.bitMatrix.cells = insert pair.cell a.bitMatrix.cells := by
  have same (other : Pair) (inside : other.row < a.precision.rows) (distinct : other ≠ pair) :
      other.cell ∈ b.bitMatrix.cells ↔ other.cell ∈ a.bitMatrix.cells := by
    rw [BitMatrix.cell_mem_cells, BitMatrix.cell_mem_cells, before.isSet_bitMatrix inside,
      after.isSet_bitMatrix (precision ▸ inside), offset, decide_eq_decide.mpr (items other distinct)]
    by_cases early : other.column < a.offset
    · simp [early]
    · rw [bits other distinct (by omega)]
  have rows {m : BitMatrix} (size : m.size = a.precision.rows) {cell : Nat × Nat}
      (member : cell ∈ m.cells) : cell.1 < a.precision.rows ∧ cell.2 < 64 :=
    ⟨size ▸ BitMatrix.row_lt_of_mem_cells member, (BitMatrix.mem_cells.mp member).1⟩
  have size := after.size_bitMatrix.trans (congrArg _ precision)
  apply BitMatrix.cells_eq_of_pairs size
  · intro cell member
    rcases Finset.mem_insert.mp member with rfl | old
    · exact rows size set
    · exact rows before.size_bitMatrix old
  · intro other inside
    rw [Finset.mem_insert]
    by_cases this : other = pair
    · simp [this, set]
    · simp [same other inside this, Pair.cell_injective.ne this]

end Layout

/-- A sketch that takes a new coupon: the layout holds and the cell is set, while the
precision, the counts and the estimate are left alone. -/
structure Adds (s : Sketch) (pair : Pair) (after : Sketch) : Prop where
  unchanged : ∃ table window, after = { s with table := table, window := window }
  allocated : after.window = #[] ↔ s.window = #[]
  layout : after.Layout
  cells : after.bitMatrix.cells = insert pair.cell s.bitMatrix.cells

theorem insertPair_spec (layout : s.Layout) (inside : pair.InRange s.precision)
    (listed : s.window = #[] ∨ s.offset + 8 ≤ pair.column) :
    (pair.cell ∈ s.bitMatrix.cells → s.withTable (·.insert pair) = .ok (s, false)) ∧
    (pair.cell ∉ s.bitMatrix.cells → ∀ after novel,
      s.withTable (·.insert pair) = .ok (after, novel) → novel = true ∧ s.Adds pair after) := by
  rw [layout.mem_cells_listed inside.1 listed, withTable_eq]
  constructor
  · intro member
    rw [PairTable.insert_of_mem layout.table member]
  · intro absent after novel run
    split at run
    · contradiction
    · rename_i table answer inserted
      cases run
      obtain ⟨novel, wellFormed, width, perm⟩ := PairTable.insert_of_notMem layout.table absent
        inside.2 (layout.narrow inside) inserted
      have items (other : Pair) : other ∈ table.items ↔ other = pair ∨ other ∈ s.table.items :=
        perm.mem_iff.trans List.mem_cons
      have layoutAfter : Layout { s with table := table } := by
        refine ⟨wellFormed, width.trans layout.width, layout.offset_lt, layout.window, ?_⟩
        intro allocated other member
        rcases (items other).mp member with rfl | member
        · exact Or.inr (listed.resolve_left allocated)
        · exact layout.outside allocated other member
      refine ⟨novel, ⟨⟨table, s.window, rfl⟩, Iff.rfl, layoutAfter, ?_⟩⟩
      apply layout.cells_insert layoutAfter rfl rfl
      · intro other different
        exact (items other).trans (or_iff_right different)
      · intro other _ _
        rfl
      · exact (layoutAfter.mem_cells_listed inside.1 listed).mpr ((items pair).mpr (Or.inl rfl))

theorem erasePair_spec (layout : s.Layout) (inside : pair.row < s.precision.rows)
    (before : pair.column < s.offset) :
    (pair.cell ∈ s.bitMatrix.cells → s.withTable (·.erase pair) = .ok (s, false)) ∧
    (pair.cell ∉ s.bitMatrix.cells →
      ∃ after, s.withTable (·.erase pair) = .ok (after, true) ∧ s.Adds pair after) := by
  have narrow : pair.toNat < 2 ^ s.table.validBits := layout.width ▸ Pair.row_lt_rows_iff.mp inside
  rw [layout.mem_cells_before inside before, withTable_eq]
  constructor
  · intro absent
    rw [PairTable.erase_of_notMem layout.table absent narrow]
  · intro member
    obtain ⟨table, erased, wellFormed, width, perm⟩ :=
      PairTable.erase_of_mem layout.table (not_not.mp member)
    have items (other : Pair) : other ∈ s.table.items ↔ other = pair ∨ other ∈ table.items :=
      perm.mem_iff.trans List.mem_cons
    have gone : pair ∉ table.items := (List.nodup_cons.mp (perm.nodup layout.table.distinct)).1
    have layoutAfter : Layout { s with table := table } :=
      ⟨wellFormed, width.trans layout.width, layout.offset_lt, layout.window,
        fun allocated other member => layout.outside allocated other ((items other).mpr (Or.inr member))⟩
    refine ⟨_, by rw [erased], ⟨⟨table, s.window, rfl⟩, Iff.rfl, layoutAfter, ?_⟩⟩
    apply layout.cells_insert layoutAfter rfl rfl
    · intro other different
      exact ((items other).trans (or_iff_right different)).symm
    · intro other _ _
      rfl
    · exact (layoutAfter.mem_cells_before inside before).mpr gone

theorem setPair_spec (layout : s.Layout) (allocated : s.window ≠ #[])
    (inside : pair.row < s.precision.rows) (from_offset : s.offset ≤ pair.column)
    (near : pair.column < s.offset + 8) :
    (pair.cell ∈ s.bitMatrix.cells →
      s.withWindow (setWindowBit · pair.row (pair.column - s.offset)) = .ok (s, false)) ∧
    (pair.cell ∉ s.bitMatrix.cells → ∃ after,
      s.withWindow (setWindowBit · pair.row (pair.column - s.offset)) = .ok (after, true) ∧
        s.Adds pair after) := by
  have size := layout.size_window allocated
  obtain ⟨changed, run, sizeAfter, bits, fixed⟩ := setWindowBit_spec (size ▸ inside)
    (by omega : pair.column - s.offset < 8)
  rw [BitMatrix.cell_mem_cells, layout.isSet_inside allocated inside from_offset near,
    withWindow_eq, run]
  constructor
  · intro set
    rw [set, fixed set]
    rfl
  · intro clear
    have allocatedAfter := window_ne_empty (sizeAfter.trans size)
    have layoutAfter : Layout { s with window := changed } :=
      ⟨layout.table, layout.width, layout.offset_lt, Or.inr (sizeAfter.trans size),
        fun _ => layout.outside allocated⟩
    refine ⟨{ s with window := changed }, by simp [clear],
      ⟨⟨s.table, changed, rfl⟩, by simp [allocated, allocatedAfter], layoutAfter, ?_⟩⟩
    apply layout.cells_insert layoutAfter rfl rfl
    · intro other _
      rfl
    · intro other different later
      rw [bits, Bool.or_eq_left_iff_imp]
      intro same
      rw [decide_eq_true_eq] at same
      exact (different (Pair.eq_of_cell same.1 (by omega))).elim
    · rw [BitMatrix.cell_mem_cells, layoutAfter.isSet_inside allocatedAfter inside from_offset near,
        bits]
      simp

/-- Recording a cell that is set changes nothing; recording one that is clear adds
exactly that cell. A cell behind the window needs a name that a table can hold. -/
theorem record_spec (layout : s.Layout) (allocated : s.window ≠ #[])
    (inside : pair.row < s.precision.rows)
    (named : s.offset + 8 ≤ pair.column → pair ≠ Pair.vacant) :
    (pair.cell ∈ s.bitMatrix.cells → s.record pair = .ok (s, false)) ∧
    (pair.cell ∉ s.bitMatrix.cells → ∀ after novel,
      s.record pair = .ok (after, novel) → novel = true ∧ s.Adds pair after) := by
  have determined {result : Except Fault (Sketch × Bool)} {a after : Sketch} {novel : Bool}
      (made : result = .ok (a, true)) (adds : s.Adds pair a) (run : result = .ok (after, novel)) :
      novel = true ∧ s.Adds pair after := by
    cases made.symm.trans run
    exact ⟨rfl, adds⟩
  unfold record
  by_cases before : pair.column < s.offset
  · rw [if_pos before]
    obtain ⟨set, clear⟩ := erasePair_spec layout inside before
    refine ⟨set, fun absent after novel run => ?_⟩
    obtain ⟨a, made, adds⟩ := clear absent
    exact determined made adds run
  · rw [if_neg before]
    by_cases near : pair.column < s.offset + 8
    · rw [if_pos near]
      obtain ⟨set, clear⟩ := setPair_spec layout allocated inside (by omega) near
      refine ⟨set, fun absent after novel run => ?_⟩
      obtain ⟨a, made, adds⟩ := clear absent
      exact determined made adds run
    · rw [if_neg near]
      have behind : s.offset + 8 ≤ pair.column := by omega
      exact insertPair_spec layout ⟨inside, named behind⟩ (Or.inr behind)

/-- Without a window every cell goes to the table, so such a name is all that a pair of a
row needs. -/
theorem Layout.inRange_sparse (layout : s.Layout) (none : s.window = #[])
    (inside : pair.row < s.precision.rows)
    (named : s.offset + 8 ≤ pair.column → pair ≠ Pair.vacant) : pair.InRange s.precision := by
  refine ⟨inside, ?_⟩
  rintro rfl
  refine named ?_ rfl
  rw [layout.offset_sparse none, Pair.column_vacant]
  decide

theorem Layout.congr (layout : s.Layout) (precision : after.precision = s.precision)
    (table : after.table = s.table) (offset : after.offset = s.offset)
    (window : after.window = s.window) : after.Layout := by
  obtain ⟨wellFormed, width, offset_lt, size, outside⟩ := layout
  constructor
  · rwa [table]
  · rwa [table, precision]
  · rwa [offset]
  · rwa [window, offset, precision]
  · rwa [window, table, offset]

/-- Setting up the window moves cells from the table to the window and loses none. -/
theorem openWindow_spec (layout : s.Layout) (none : s.window = #[])
    (opened : s.openWindow = .ok after) :
    (∃ table window, after = { s with table := table, window := window }) ∧ after.window ≠ #[] ∧
      after.Layout ∧ after.bitMatrix = s.bitMatrix := by
  have rows := s.precision.rows_le
  have start := layout.offset_sparse none
  obtain ⟨marked, run, size, bits⟩ :=
    markEarly_spec (p := s.precision) fun pair member => layout.row_lt member
  have allocated := window_ne_empty size
  unfold openWindow at opened
  simp only [run] at opened
  split at opened
  · contradiction
  · rename_i table inserted
    cases opened
    obtain ⟨emptyFormed, emptyWidth, emptyItems⟩ := PairTable.empty_spec s.precision
    obtain ⟨wellFormed, width, perm⟩ := PairTable.insertAll_fresh emptyFormed emptyWidth emptyItems
      (layout.table.distinct.filter _)
      (fun pair member => layout.inRange (List.mem_filter.mp member).1) inserted
    have items (pair : Pair) : pair ∈ table.items ↔ pair ∈ s.table.items ∧ 8 ≤ pair.column := by
      rw [perm.mem_iff, List.mem_filter]
      simp
    have layoutAfter : Layout { s with table := table, window := marked } := by
      refine ⟨wellFormed, width, layout.offset_lt, Or.inr size, ?_⟩
      intro _ pair member
      have late := ((items pair).mp member).2
      exact Or.inr (by simpa [start] using late)
    refine ⟨⟨table, marked, rfl⟩, allocated, layoutAfter, ?_⟩
    apply BitMatrix.ext_isSet (layoutAfter.size_bitMatrix.trans layout.size_bitMatrix.symm)
    intro row inside column small
    rw [layoutAfter.size_bitMatrix] at inside
    obtain ⟨pair, rfl, rfl⟩ := Pair.exists_cell (inside.trans_le rows) small
    rw [Bool.eq_iff_iff, layout.isSet_sparse none inside]
    by_cases early : pair.column < 8
    · rw [layoutAfter.isSet_inside allocated inside (by simp [start]) (by simpa [start] using early),
        start, Nat.sub_zero, bits]
      exact and_iff_left early
    · rw [layoutAfter.isSet_behind inside (by simpa [start] using early), items]
      exact and_iff_left (by omega)

/-- A window that moves by one column leaves no surprise with the name of a free slot: column
63 lies behind the old window, where only a pair of the table can be set. -/
theorem Layout.vacant_not_surprise (layout : s.Layout) (within : s.offset + 1 ≤ 56) :
    Pair.vacant.cell ∉ surpriseCells (s.offset + 1) s.bitMatrix := by
  intro surprise
  rw [Pair.cell, mem_surpriseCells (by omega), layout.size_bitMatrix, Pair.column_vacant] at surprise
  obtain ⟨inside, _, ⟨early, _⟩ | ⟨_, set⟩⟩ := surprise
  · omega
  · have member := (layout.isSet_behind inside (by rw [Pair.column_vacant]; omega)).mp
      (by rwa [Pair.column_vacant])
    exact PairTable.real_of_mem member rfl

/-- Moving the window by one column lays the same matrix out anew. -/
theorem slide_spec (layout : s.Layout) (slid : s.slide = .ok after) :
    (∃ table window, after = { s with
      firstInteresting := firstSurprise (s.offset + 1) s.bitMatrix
      table := table
      offset := s.offset + 1
      window := window
      hipState := if (s.offset + 1) % 8 = 0 then s.refreshedHip s.bitMatrix else s.hipState }) ∧
    after.offset ≤ lastWindowOffset ∧ after.window ≠ #[] ∧ after.Layout ∧
      after.bitMatrix = s.bitMatrix := by
  unfold slide at slid
  simp only [layout.bitMatrix?_eq] at slid
  split at slid
  · contradiction
  · rename_i within
    have within : s.offset + 1 ≤ 56 := Nat.le_of_not_lt within
    obtain ⟨cleared, width, items⟩ := PairTable.clear_spec layout.table
    have real := layout.vacant_not_surprise within
    obtain ⟨⟨filled, rfl⟩, _, layoutAfter, same⟩ := layOut_spec (s := { s with
      hipState := if (s.offset + 1) % 8 = 0 then s.refreshedHip s.bitMatrix else s.hipState }) cleared
      (width.trans layout.width) items layout.size_bitMatrix (by omega) real slid
    exact ⟨⟨filled, _, rfl⟩, within,
      window_ne_empty (p := s.precision) (by simpa using layout.size_bitMatrix), layoutAfter, same⟩

/-- What a new coupon does to a counter, before its layout is looked at. -/
structure Charged (s : Sketch) (pair : Pair) (after : Sketch) : Prop where
  precision : after.precision = s.precision
  seed : after.seed = s.seed
  merged : after.merged = s.merged
  numCoupons : after.numCoupons = s.numCoupons + 1
  layout : after.Layout
  cells : after.bitMatrix.cells = insert pair.cell s.bitMatrix.cells

/-- A new coupon that leaves the window where it is. -/
structure Stays (s : Sketch) (pair : Pair) (after : Sketch) : Prop where
  offset : after.offset = s.offset
  interesting : after.firstInteresting = s.firstInteresting
  hipState : after.hipState = s.chargedHip pair.column

/-- A new coupon with which the window moves by one column. -/
structure Moves (s : Sketch) (pair : Pair) (after : Sketch) : Prop where
  offset : after.offset = s.offset + 1
  within : after.offset ≤ lastWindowOffset
  interesting : after.firstInteresting = firstSurprise after.offset after.bitMatrix
  hipState : after.hipState =
    if s.merged then s.hipState
    else
      let charged := s.hipState.charge s.precision pair.column
      if after.offset % 8 = 0 then charged.refresh after.bitMatrix else charged

/-- What a new coupon does to a counter in the end. -/
structure Collects (s : Sketch) (pair : Pair) (after : Sketch) : Prop
    extends Charged s pair after where
  step : s.Stays pair after ∨ s.Moves pair after
  valid : after.Valid

theorem Collects.offset (collects : s.Collects pair after) :
    after.offset = s.offset ∨ after.offset ≤ lastWindowOffset :=
  collects.step.imp Stays.offset Moves.within

theorem Collects.interesting (collects : s.Collects pair after) :
    after.firstInteresting = s.firstInteresting ∨
      ∀ row < s.precision.rows, ∀ column < after.firstInteresting,
        after.bitMatrix.isSet row column = true := by
  refine collects.step.imp Stays.interesting fun moves row inside column before => ?_
  rw [moves.interesting] at before
  refine full_before_firstSurprise collects.valid.offset_lt ?_ before
  rwa [collects.valid.size_bitMatrix, collects.precision]

/-- The registers of a merged counter stand still, and it stays a merged one. -/
structure KeepsMerged (s after : Sketch) : Prop where
  merged : after.merged = s.merged
  hipState : s.merged = true → after.hipState = s.hipState

theorem KeepsMerged.refl (s : Sketch) : s.KeepsMerged s := ⟨rfl, fun _ => rfl⟩

theorem KeepsMerged.trans {next : Sketch} (first : s.KeepsMerged next)
    (second : next.KeepsMerged after) : s.KeepsMerged after where
  merged := second.merged.trans first.merged
  hipState merged := (second.hipState (first.merged.trans merged)).trans (first.hipState merged)

/-- A merged counter, with the registers of an empty one. -/
def Dropped (s : Sketch) : Prop := s.merged = true ∧ s.hipState = Hip.start s.precision

theorem dropHistory_dropped (s : Sketch) : s.dropHistory.Dropped := ⟨rfl, rfl⟩

theorem KeepsMerged.dropped (kept : s.KeepsMerged after) (precision : after.precision = s.precision)
    (dropped : s.Dropped) : after.Dropped := by
  obtain ⟨merged, start⟩ := dropped
  refine ⟨kept.merged.trans merged, ?_⟩
  rw [kept.hipState merged, start, precision]

theorem Collects.keepsMerged (collects : s.Collects pair after) : s.KeepsMerged after := by
  refine ⟨collects.merged, fun merged => ?_⟩
  rcases collects.step with stays | moves
  · rw [stays.hipState, chargedHip, if_pos merged]
  · rw [moves.hipState, if_pos merged]

/-- The registers are those of an empty counter where nothing was seen and where a merge has
lost the history. -/
def FreshHistory (s : Sketch) : Prop :=
  s.merged = true ∨ s.numCoupons = 0 → s.hipState = Hip.start s.precision

theorem Dropped.freshHistory (dropped : s.Dropped) : s.FreshHistory := fun _ => dropped.2

theorem Collects.freshHistory (collects : s.Collects pair after) (fresh : s.FreshHistory) :
    after.FreshHistory := by
  rintro (lost | empty)
  · have merged : s.merged = true := collects.merged ▸ lost
    exact (collects.keepsMerged.dropped collects.precision ⟨merged, fresh (Or.inl merged)⟩).2
  · have count := collects.numCoupons
    omega

theorem Adds.charged {r : Sketch} (adds : s.Adds pair r) :
    s.Charged pair (r.charge pair) ∧ s.Stays pair (r.charge pair) ∧
      ((r.charge pair).window = #[] ↔ s.window = #[]) := by
  obtain ⟨⟨table, window, rfl⟩, allocated, layout, cells⟩ := adds
  exact ⟨⟨rfl, rfl, rfl, rfl, layout.congr rfl rfl rfl rfl, cells⟩,
    ⟨rfl, rfl, rfl⟩, allocated⟩

theorem Charged.count (charged : s.Charged pair after) (valid : s.Valid)
    (clear : pair.cell ∉ s.bitMatrix.cells) : after.bitMatrix.count = after.numCoupons := by
  rw [BitMatrix.count_eq_card, charged.cells, Finset.card_insert_of_notMem clear,
    ← BitMatrix.count_eq_card, valid.count, charged.numCoupons]

/-- Where the layout already is the one for the new number of coupons, it stays. -/
theorem Charged.collects (charged : s.Charged pair after) (valid : s.Valid)
    (clear : pair.cell ∉ s.bitMatrix.cells) (stays : s.Stays pair after)
    (offset_eq : s.offset = windowOffset s.precision (s.numCoupons + 1))
    (windowed : after.window = #[] ↔ 32 * (s.numCoupons + 1) < 3 * s.precision.rows) :
    s.Collects pair after := by
  refine ⟨charged, Or.inl stays, ⟨charged.layout, ?_, ?_, ?_, charged.count valid clear⟩⟩
  · rw [stays.offset, offset_eq, charged.precision, charged.numCoupons]
  · rw [windowed_eq_iff, windowed, charged.precision, charged.numCoupons]
  · rw [stays.interesting, stays.offset]
    exact valid.interesting

/-- Where the new number of coupons calls for the next column, the window moves. -/
theorem Charged.collects_moved {c : Sketch} (charged : s.Charged pair c) (valid : s.Valid)
    (clear : pair.cell ∉ s.bitMatrix.cells) (stays : s.Stays pair c)
    (many : ¬ 32 * (s.numCoupons + 1) < 3 * s.precision.rows)
    (full : (27 + 8 * s.offset) * s.precision.rows ≤ 8 * (s.numCoupons + 1))
    (run : c.slide = .ok after) : s.Collects pair after := by
  have count := charged.count valid clear
  obtain ⟨⟨table, moved, rfl⟩, within, allocated, layout, same⟩ := slide_spec charged.layout run
  refine ⟨⟨charged.precision, charged.seed, charged.merged, charged.numCoupons, layout,
    (congrArg BitMatrix.cells same).trans charged.cells⟩,
    Or.inr ⟨congrArg (· + 1) stays.offset, within, ?_, ?_⟩,
    ⟨layout, ?_, ?_, firstSurprise_le _ _, (congrArg BitMatrix.count same).trans count⟩⟩
  · rw [same]
  · rw [same, refreshedHip, charged.merged, stays.hipState, chargedHip]
    cases s.merged with
    | true => simp
    | false => simp
  · rw [stays.offset, charged.precision, charged.numCoupons, valid.windowOffset_succ full]
  · apply windowed_eq_iff.mpr
    simp only [charged.precision, charged.numCoupons]
    exact iff_of_false allocated many

theorem collectSparse_spec (valid : s.Valid) (none : s.window = #[])
    (inside : pair.InRange s.precision) :
    (pair.cell ∈ s.bitMatrix.cells → s.collectSparse pair = .ok s) ∧
    (pair.cell ∉ s.bitMatrix.cells →
      ∀ after, s.collectSparse pair = .ok after → s.Collects pair after) := by
  obtain ⟨set, clear⟩ := insertPair_spec valid.toLayout inside (Or.inl none)
  constructor
  · intro member
    rw [collectSparse, set member]
  · intro absent after run
    simp only [collectSparse] at run
    split at run
    · contradiction
    · rename_i r recorded
      exact (Bool.false_ne_true (clear absent _ _ recorded).1).elim
    · rename_i r recorded
      obtain ⟨charged, stays, window⟩ := (clear absent _ _ recorded).2.charged
      generalize r.charge pair = c at run charged stays window
      have few := (windowed_eq_iff.mp valid.windowed).mp none
      have rows := s.precision.sixteen_le_rows
      have offset_eq : s.offset = windowOffset s.precision (s.numCoupons + 1) := by
        rw [valid.offset_eq, windowOffset_eq_zero (by omega), windowOffset_eq_zero (by omega)]
      rw [charged.precision, charged.numCoupons] at run
      split at run
      · rename_i many
        obtain ⟨⟨table, marked, rfl⟩, allocated, layout, same⟩ :=
          openWindow_spec charged.layout (window.mpr none) run
        have opened : s.Charged pair { c with table := table, window := marked } :=
          ⟨charged.precision, charged.seed, charged.merged, charged.numCoupons, layout,
            (congrArg BitMatrix.cells same).trans charged.cells⟩
        exact opened.collects valid absent ⟨stays.offset, stays.interesting, stays.hipState⟩ offset_eq
          (iff_of_false allocated (Nat.not_lt.mpr many))
      · rename_i still
        cases run
        exact charged.collects valid absent stays offset_eq
          (iff_of_true (window.mpr none) (Nat.lt_of_not_le still))

theorem collectWindowed_spec (valid : s.Valid) (allocated : s.window ≠ #[])
    (inside : pair.row < s.precision.rows)
    (named : s.offset + 8 ≤ pair.column → pair ≠ Pair.vacant) :
    (pair.cell ∈ s.bitMatrix.cells → s.collectWindowed pair = .ok s) ∧
    (pair.cell ∉ s.bitMatrix.cells →
      ∀ after, s.collectWindowed pair = .ok after → s.Collects pair after) := by
  obtain ⟨set, clear⟩ := record_spec valid.toLayout allocated inside named
  constructor
  · intro member
    rw [collectWindowed, set member]
  · intro absent after run
    simp only [collectWindowed] at run
    split at run
    · contradiction
    · rename_i r recorded
      exact (Bool.false_ne_true (clear absent _ _ recorded).1).elim
    · rename_i r recorded
      obtain ⟨charged, stays, window⟩ := (clear absent _ _ recorded).2.charged
      generalize r.charge pair = c at run charged stays window
      have many : ¬ 32 * s.numCoupons < 3 * s.precision.rows :=
        fun few => allocated ((windowed_eq_iff.mp valid.windowed).mpr few)
      have still : ¬ 32 * (s.numCoupons + 1) < 3 * s.precision.rows := by omega
      rw [charged.precision, charged.numCoupons, stays.offset] at run
      split at run
      · rename_i full
        exact charged.collects_moved valid absent stays still full run
      · rename_i short
        cases run
        exact charged.collects valid absent stays
          (valid.windowOffset_same (Nat.lt_of_not_le short)).symm
          (iff_of_false (mt window.mp allocated) still)

/-- A coupon whose cell is set leaves the counter exactly as it is. -/
theorem collect_of_mem (valid : s.Valid) (inside : pair.InRange s.precision)
    (set : pair.cell ∈ s.bitMatrix.cells) : s.collect pair = .ok s := by
  rw [collect]
  split
  · rfl
  · split
    · rename_i none
      exact (collectSparse_spec valid (by simpa using none) inside).1 set
    · rename_i allocated
      exact (collectWindowed_spec valid (by simpa using allocated) inside.1 fun _ => inside.2).1 set

/-- A coupon is passed over, or was there already, or is added. -/
theorem collect_cases (valid : s.Valid) (inside : pair.InRange s.precision)
    (run : s.collect pair = .ok after) :
    (after = s ∧ (pair.column < s.firstInteresting ∨ pair.cell ∈ s.bitMatrix.cells)) ∨
      (pair.cell ∉ s.bitMatrix.cells ∧ s.Collects pair after) := by
  by_cases set : pair.cell ∈ s.bitMatrix.cells
  · cases (collect_of_mem valid inside set).symm.trans run
    exact Or.inl ⟨rfl, Or.inr set⟩
  · rw [collect] at run
    split at run
    · rename_i passed
      cases run
      exact Or.inl ⟨rfl, Or.inl passed⟩
    · refine Or.inr ⟨set, ?_⟩
      split at run
      · rename_i none
        exact (collectSparse_spec valid (by simpa using none) inside).2 set after run
      · rename_i allocated
        exact (collectWindowed_spec valid (by simpa using allocated) inside.1 fun _ => inside.2).2 set
          after run

end DistinctCount.Sketch
