import DistinctCount.Proofs.CanonicalLayout
import DistinctCount.Proofs.MergeClosure

/-! The order of the slots in a table, and their number, are never seen. All parts of a
counter but its history and its first interesting column follow from its cells, up to that
order, and an update looks at nothing else. So counters that differ there stay alike
however they are updated, and they tell the same. A counter that was read from an image of
another is such a counter. -/
namespace DistinctCount.Sketch

variable {a b s r x y after : Sketch} {pair : Pair} {coupons : List Pair}
  {seed : UInt64} {bytes : List UInt8}

/-- Counters of the same cells have the same layout. Whether they are alike is then a matter
of their history and of the columns that they pass over. -/
theorem Settled.alike_of_cells (settledA : a.Settled) (settledB : b.Settled)
    (precision : a.precision = b.precision) (cells : a.bitMatrix.cells = b.bitMatrix.cells)
    (interesting : a.firstInteresting = b.firstInteresting) (merged : a.merged = b.merged)
    (history : a.hipState = b.hipState) : a.Alike b := by
  have matrix := settledA.bitMatrix_of_cells settledB.toLayout precision cells
  have same := settledA.sameLayout settledB.toValid settledA.trimmed settledB.trimmed precision matrix
  exact ⟨precision, interesting, same.numCoupons, same.offset, same.window, merged, history,
    same.items⟩

/-! ### Updates of counters that are alike -/

namespace Alike

theorem symm (alike : a.Alike b) : b.Alike a :=
  ⟨alike.precision.symm, alike.firstInteresting.symm, alike.numCoupons.symm, alike.offset.symm,
    alike.window.symm, alike.merged.symm, alike.hipState.symm, alike.items.symm⟩

theorem bitMatrix_eq (alike : a.Alike b) (layoutA : a.Layout) (layoutB : b.Layout) :
    a.bitMatrix = b.bitMatrix := by
  have precision := alike.precision
  have size : a.bitMatrix.size = b.bitMatrix.size := by
    rw [layoutA.size_bitMatrix, layoutB.size_bitMatrix, precision]
  apply BitMatrix.ext_isSet size
  intro row inside column small
  rw [layoutA.size_bitMatrix] at inside
  obtain ⟨pair, rfl, rfl⟩ := Pair.exists_cell (inside.trans_le a.precision.rows_le) small
  rw [layoutA.isSet_bitMatrix inside, layoutB.isSet_bitMatrix (precision ▸ inside), alike.offset,
    alike.window, decide_eq_decide.mpr alike.items.mem_iff]

theorem numItems_eq (alike : a.Alike b) (tableA : a.table.WellFormed) (tableB : b.table.WellFormed) :
    a.table.numItems = b.table.numItems := by
  rw [tableA.numItems, tableB.numItems, alike.items.length_eq]

theorem ignores_iff (alike : a.Alike b) (layoutA : a.Layout) (layoutB : b.Layout) :
    a.Ignores pair ↔ b.Ignores pair := by
  rw [Ignores, Ignores, alike.firstInteresting, alike.bitMatrix_eq layoutA layoutB, alike.offset]

theorem collect_alike (alike : a.Alike b) (settledA : a.Settled) (settledB : b.Settled)
    (runA : a.collect pair = .ok x) (runB : b.collect pair = .ok y) : x.Alike y := by
  have matrix := alike.bitMatrix_eq settledA.toLayout settledB.toLayout
  have ignores := @alike.ignores_iff _ _ pair settledA.toLayout settledB.toLayout
  have settledX := (settledA.collect_keeps runA).settled
  have settledY := (settledB.collect_keeps runB).settled
  rcases collect_step settledA.toValid runA with ⟨ignoredA, rfl⟩ | ⟨freshA, collectsA⟩
  · rcases collect_step settledB.toValid runB with ⟨_, rfl⟩ | ⟨freshB, _⟩
    · exact alike
    · exact (freshB (ignores.mp ignoredA)).elim
  · rcases collect_step settledB.toValid runB with ⟨ignoredB, _⟩ | ⟨_, collectsB⟩
    · exact (freshA (ignores.mpr ignoredB)).elim
    have precision : x.precision = y.precision := by
      rw [collectsA.precision, collectsB.precision, alike.precision]
    have cells : x.bitMatrix.cells = y.bitMatrix.cells := by
      rw [collectsA.cells, collectsB.cells, matrix]
    have grown := settledX.bitMatrix_of_cells settledY.toLayout precision cells
    have offset : x.offset = y.offset := by
      rw [settledX.offset_eq, settledY.offset_eq, ← settledX.count, ← settledY.count, precision, grown]
    have merged : x.merged = y.merged := by
      rw [collectsA.merged, collectsB.merged, alike.merged]
    -- Where the window stands afterwards tells whether it has moved, of both alike.
    have before := alike.offset
    rcases collectsA.step with staysA | movesA <;> rcases collectsB.step with staysB | movesB
    · apply settledX.alike_of_cells settledY precision cells
      · rw [staysA.interesting, staysB.interesting, alike.firstInteresting]
      · exact merged
      · rw [staysA.hipState, staysB.hipState, chargedHip, chargedHip, alike.merged, alike.hipState,
          alike.precision]
    · have stayed := staysA.offset
      have moved := movesB.offset
      omega
    · have moved := movesA.offset
      have stayed := staysB.offset
      omega
    · apply settledX.alike_of_cells settledY precision cells
      · rw [movesA.interesting, movesB.interesting, offset, grown]
      · exact merged
      · rw [movesA.hipState, movesB.hipState, alike.merged, alike.hipState, alike.precision, offset,
          grown]

end Alike

/-! ### Faults -/

/-- Where a coupon went to the table, there was room for it. -/
theorem room_of_collect (layout : s.Layout) (fresh : ¬ s.Ignores pair)
    (run : s.collect pair = .ok after) (listed : s.window = #[] ∨ s.offset + 8 ≤ pair.column)
    (absent : pair ∉ s.table.items) :
    s.table.numItems < PairTable.capacity s.precision.pairBits := by
  have met : ¬ pair.column < s.firstInteresting := fun passed => fresh (Or.inl passed)
  have inside := row_lt_of_collect layout run (Nat.not_lt.mp met)
  obtain ⟨⟨changed, novel⟩, recorded⟩ : ∃ result, s.withTable (·.insert pair) = .ok result := by
    rw [collect, if_neg met] at run
    cases inserted : s.withTable (·.insert pair) with
    | ok result => exact ⟨result, rfl⟩
    | error fault =>
      split at run
      · rw [collectSparse, inserted] at run
        contradiction
      · rename_i allocated
        have behind := listed.resolve_left (by simpa using allocated)
        rw [collectWindowed, record, if_neg (by omega), if_neg (by omega), inserted] at run
        contradiction
  rw [withTable_eq] at recorded
  split at recorded
  · contradiction
  · rename_i table answer inserted
    have named : pair ≠ Pair.vacant := by
      rcases listed with none | behind
      · exact (layout.inRange_sparse none inside (named_of_not_ignores fresh)).2
      · exact named_of_not_ignores fresh behind
    obtain ⟨_, wellFormed, width, perm⟩ := PairTable.insert_of_notMem layout.table absent named
      (layout.narrow ⟨inside, named⟩) inserted
    have fits := wellFormed.numItems_le
    rwa [wellFormed.numItems, perm.length_eq, List.length_cons, ← layout.table.numItems, width,
      layout.width] at fits

/-- Where a coupon was collected, the counter could be laid out with it. -/
theorem Collects.movable (collects : s.Collects pair after) (settled : after.Settled) :
    s.Movable pair := by
  intro m size cells
  have same : m = after.bitMatrix := by
    refine BitMatrix.ext_cells ?_ (cells.trans collects.cells.symm)
    rw [size, settled.size_bitMatrix, collects.precision]
  have offset : windowOffset s.precision (s.numCoupons + 1) = after.offset := by
    rw [settled.offset_eq, collects.precision, collects.numCoupons]
  have fits := settled.surprises_fit
  rw [collects.precision] at fits
  rw [offset, same]
  exact ⟨settled.offset_le, fits⟩

/-- A fault depends on the cells and not on the slots. -/
theorem Alike.collect_ok (alike : a.Alike b) (settledA : a.Settled) (settledB : b.Settled)
    (run : a.collect pair = .ok x) : ∃ y, b.collect pair = .ok y := by
  have ignores := @alike.ignores_iff _ _ pair settledA.toLayout settledB.toLayout
  have met (later : b.firstInteresting ≤ pair.column) : pair.row < b.precision.rows := by
    rw [← alike.precision]
    exact row_lt_of_collect settledA.toLayout run (alike.firstInteresting ▸ later)
  rcases collect_step settledA.toValid run with ⟨ignored, _⟩ | ⟨fresh, collects⟩
  · exact ⟨b, collect_of_ignores settledB.toValid (ignores.mp ignored) met⟩
  · have freshB := mt ignores.mpr fresh
    have movable := collects.movable (settledA.collect_keeps run).settled
    have count := alike.numItems_eq settledA.table settledB.table
    refine collect_total settledB.toValid (met ?_) (named_of_not_ignores freshB) ?_ ?_
    · exact Nat.not_lt.mp fun passed => freshB (Or.inl passed)
    · intro listed absent
      rw [← alike.window, ← alike.offset] at listed
      rw [← count, ← alike.precision]
      exact room_of_collect settledA.toLayout fresh run listed (mt alike.items.mem_iff.mp absent)
    · rwa [Movable, ← alike.precision, ← alike.numCoupons,
        ← alike.bitMatrix_eq settledA.toLayout settledB.toLayout]

/-- Counters that are alike stay so in any run of updates, and the run ends in a fault for
both or for none. -/
theorem Alike.collectAll_alike (alike : a.Alike b) (settledA : a.Settled) (settledB : b.Settled)
    (run : a.collectAll coupons = .ok x) : ∃ y, b.collectAll coupons = .ok y ∧ x.Alike y := by
  induction coupons generalizing a b with
  | nil =>
    cases run
    exact ⟨b, rfl, alike⟩
  | cons pair rest ih =>
    obtain ⟨next, stepA, run⟩ := collectAll_cons.mp run
    obtain ⟨other, stepB⟩ := alike.collect_ok settledA settledB stepA
    obtain ⟨y, runB, same⟩ := ih (alike.collect_alike settledA settledB stepA stepB)
      (settledA.collect_keeps stepA).settled (settledB.collect_keeps stepB).settled run
    exact ⟨y, collectAll_cons.mpr ⟨other, stepB, runB⟩, same⟩

/-! ### Counters that are read again -/

theorem Settled.storable_of_read (settled : s.Settled) (written : s.toImage = .ok bytes)
    (read : ofImage seed bytes = .ok r) : s.Storable := by
  have rows := s.precision.rows_le
  have limits : s.table.numItems ≤ min s.numCoupons (3 * 2 ^ 24) := by
    by_cases half : s.precision.rows ≤ 2 * s.numCoupons
    · have few := (settled.accepted_limits half settled.numCoupons_lt settled.history written read).2
      have largest := PairTable.initialCapacity_le_largest s.precision.pairBits
      exact few.trans (min_le_min_left _ largest)
    · have start : s.offset = 0 := by rw [settled.offset_eq, windowOffset_eq_zero (by omega)]
      have length := settled.length_listed start
      rw [List.length_append, settled.count, ← settled.table.numItems] at length
      exact le_min (by omega) (by omega)
  obtain ⟨pairs, listed, streamed⟩ := settled.exists_written (limits.trans (min_le_left _ _))
  obtain ⟨image, rest, head, _⟩ := ofImage_head read
  simp only [toImage, listed, Except.ok.injEq] at written
  rw [← written, imageOf_eq, List.append_assoc] at head
  have finite := (Preamble.read_sound head).finite
  rw [(settled.head_placed streamed).eq_of_read head, Preamble.hipFinite] at finite
  refine ⟨fun own => ?_, limits⟩
  simpa [Sketch.head, own] using finite

theorem Settled.alike_of_read (settled : s.Settled) (written : s.toImage = .ok bytes)
    (read : ofImage s.seed bytes = .ok r) : s.Alike r ∧ s.seed = r.seed := by
  have storable := settled.storable_of_read written read
  obtain ⟨image, again, rewritten, reread, seed, alike⟩ := settled.ofImage_toImage storable rfl
  cases written.symm.trans rewritten
  cases read.symm.trans reread
  exact ⟨alike.symm, seed.symm⟩

/-! ### What is told of counters that are alike -/

/-- Two counters that differ in the slots of their tables at most. -/
structure Twins (a b : Sketch) : Prop where
  first : a.Representation
  second : b.Representation
  alike : a.Alike b
  seed : a.seed = b.seed

/-- All that can be learnt of two counters is the same. -/
structure TellSame (a b : Sketch) : Prop where
  image : a.toImage = b.toImage
  summary : a.summary = b.summary
  estimate : a.estimate = b.estimate
  lowerBound : ∀ kappa, a.lowerBound kappa = b.lowerBound kappa
  upperBound : ∀ kappa, a.upperBound kappa = b.upperBound kappa

theorem Twins.tellSame (twins : a.Twins b) : a.TellSame b := by
  have alike := twins.alike
  have count := alike.numItems_eq twins.first.table twins.second.table
  refine ⟨alike.toImage_eq (by rw [twins.seed]), ?_, ?_, fun _ => ?_, fun _ => ?_⟩
  · unfold summary flavor
    rw [twins.seed, alike.merged, alike.hipState, alike.window, alike.offset, alike.precision,
      alike.numCoupons, alike.firstInteresting, count]
  · rw [estimate, estimate, alike.precision, alike.numCoupons, alike.merged, alike.hipState]
  · rw [lowerBound, lowerBound, alike.precision, alike.numCoupons, alike.merged, alike.hipState]
  · rw [upperBound, upperBound, alike.precision, alike.numCoupons, alike.merged, alike.hipState]

/-- The slots of a table are never seen. Of two counters that differ there at most, a run of
updates either ends in a fault for both, or it leads to counters that differ there at most
again: they have the same numbers, window, history and pairs, and they tell the same. A
counter that was read from the image of another differs from it there at most. -/
theorem slots_unobservable :
    (∀ a b : Sketch, a.Twins b → ∀ coupons x, a.collectAll coupons = .ok x →
      ∃ y, b.collectAll coupons = .ok y ∧ x.Twins y ∧ x.TellSame y) ∧
    ∀ (s r : Sketch) (bytes : List UInt8), s.Representation → s.toImage = .ok bytes →
      ofImage s.seed bytes = .ok r → s.Twins r := by
  constructor
  · intro a b twins coupons x run
    have settledA := twins.first.settled
    have settledB := twins.second.settled
    obtain ⟨y, runB, alike⟩ := twins.alike.collectAll_alike settledA settledB run
    have keepsA := settledA.collectAll_keeps run
    have keepsB := settledB.collectAll_keeps runB
    have twinsAfter : x.Twins y :=
      ⟨keepsA.settled.representation, keepsB.settled.representation, alike, by
        rw [keepsA.seed, keepsB.seed, twins.seed]⟩
    exact ⟨y, runB, twinsAfter, twinsAfter.tellSame⟩
  · intro s r bytes parts written read
    obtain ⟨alike, seed⟩ := parts.settled.alike_of_read written read
    exact ⟨parts, (ofImage_represents read).2.2, alike, seed⟩

/-- Two coupons whose search starts at the same slot, the greater one first. -/
def collidingCoupons : List Pair := [Pair.pack 1 20, Pair.pack 0 20]

/-- They stand in the table in the order in which they came. A counter is read from the image,
which has them in ascending order, and updates that move the window leave both counters with
the same image. -/
theorem slots_unobservable_reread : ∃ s bytes r x y,
    (newMerged Precision.least 9001).collectAll collidingCoupons = .ok s ∧
    s.table.items = collidingCoupons ∧ s.toImage = .ok bytes ∧ ofImage s.seed bytes = .ok r ∧
    s.collectAll (columnCoupons 52) = .ok x ∧ r.collectAll (columnCoupons 52) = .ok y ∧
    x.offset = 1 ∧ x.numCoupons = 54 ∧ x.toImage = y.toImage := by
  have shape : ((newMerged Precision.least 9001).collectAll collidingCoupons).toOption.map (fun s =>
      (s.table.items, s.merged, decide (s.table.numItems ≤ min s.numCoupons (3 * 2 ^ 24)),
        (s.collectAll (columnCoupons 52)).toOption.map fun x => (x.offset, x.numCoupons))) =
      some (collidingCoupons, true, true, some (1, 54)) := by decide +kernel
  obtain ⟨s, made, parts⟩ := exists_ok_of_map shape
  simp only [Prod.mk.injEq, decide_eq_true_eq] at parts
  obtain ⟨stored, merged, few, moved⟩ := parts
  obtain ⟨x, run, parts⟩ := exists_ok_of_map moved
  obtain ⟨offset, coupons⟩ := Prod.mk.inj parts
  have settled := ((newMerged_settled _ 9001).collectAll_keeps made).settled
  have storable : s.Storable := ⟨by simp [merged], few⟩
  obtain ⟨bytes, r, written, read, _⟩ := settled.ofImage_toImage storable rfl
  obtain ⟨updates, images⟩ := slots_unobservable
  have twins := images s r bytes settled.representation written read
  obtain ⟨y, again, _, tell⟩ := updates s r twins _ x run
  exact ⟨s, bytes, r, x, y, made, stored, written, read, run, again, offset, coupons, tell.image⟩

end DistinctCount.Sketch
