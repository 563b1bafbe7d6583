import DistinctCount.Proofs.MatrixInverse
import Mathlib.Data.List.Iterate

/-! Walking over the slots of a table in strides. Whatever odd number the stride is, the
walk meets each slot once, so that each pair of the table is collected once. A counter that
was built by updates and merges then has the cells of the pairs beside its own, even if the
walk opens its window or moves it. -/
namespace DistinctCount

namespace Sketch

/-- The columns that a counter of a matrix passes over are full. One of 2^32 cells has lost
them all and passes over none. -/
theorem ofBitMatrix_truthful {p : Precision} {seed : UInt64} {m : BitMatrix} {s : Sketch}
    (size : m.size = p.rows) (covered : m.Covered p) (made : ofBitMatrix p seed m = .ok s) :
    s.Truthful := by
  by_cases few : m.count < 2 ^ 32
  · obtain ⟨valid, matrix, precision, _⟩ := ofBitMatrix_spec size covered few made
    intro row inside column before
    rw [matrix]
    refine (ofBitMatrix_interesting valid.offset_lt made).1.2 row ?_ column before
    rwa [size, ← precision]
  · have rows := p.rows_le
    have bound := m.count_le
    have wraps : m.count = 2 ^ 32 := by omega
    cases (ofBitMatrix_wrapped seed (by rw [wraps])).symm.trans made
    exact newMerged_truthful p seed

end Sketch

theorem Union.toSketch_truthful {u : Union} {r : Sketch} (fits : u.Fits) (made : u.toSketch = .ok r) :
    r.Truthful := by
  obtain ⟨precision, seed, state⟩ := u
  unfold toSketch at made
  cases state with
  | accumulator s =>
    obtain ⟨valid, none, _⟩ := fits
    dsimp only at made
    split_ifs at made
    · cases made
      exact Sketch.newMerged_truthful precision seed
    · cases made
      exact valid.dropHistory.truthful_sparse none
  | matrix m => exact Sketch.ofBitMatrix_truthful fits.1 fits.2 made

namespace Sketch

/-- Counters that are built by updates and merges: new ones, those that have collected
coupons, those in which a union collects coupons, and the results of unions. Only the
counters that are merged may come from images. -/
inductive Built : Sketch → Prop
  | new (p : Precision) (seed : UInt64) : Built (new p seed)
  | updated {s after : Sketch} {bytes : List UInt8} :
      Built s → s.update bytes = .ok after → Built after
  | collected {s after : Sketch} {coupons : List Pair} :
      Built s → (∀ coupon ∈ coupons, coupon.InRange s.precision) →
        s.collectAll coupons = .ok after → Built after
  | accumulated {s : Sketch} {p : Precision} {seed : UInt64} {sources : List Sketch} {u : Union} :
      (∀ source ∈ sources, Reached source) → (Union.new p seed).updateAll sources = .ok u →
        u.state = .accumulator s → Built s
  | merged {s : Sketch} {p : Precision} {seed : UInt64} {sources : List Sketch} {u : Union} :
      (∀ source ∈ sources, Reached source) → (Union.new p seed).updateAll sources = .ok u →
        u.toSketch = .ok s → Built s

theorem Built.sound {s : Sketch} (built : s.Built) : s.Valid ∧ s.Truthful := by
  induction built with
  | new p seed => exact ⟨(new_valid p seed).1, new_truthful p seed⟩
  | updated _ run ih =>
    have gathers := collect_gathers ih.1 ih.2 (Pair.ofHash_inRange _ _) run
    exact ⟨gathers.valid, gathers.truthful⟩
  | collected _ inside run ih =>
    have gathers := collectAll_gathers ih.1 ih.2 inside run
    exact ⟨gathers.valid, gathers.truthful⟩
  | accumulated reached run state =>
    have fits := Reached.union_fits reached run
    rw [Union.Fits, state] at fits
    exact ⟨fits.1, fits.1.truthful_sparse fits.2.1⟩
  | merged reached run made =>
    have fits := Reached.union_fits reached run
    exact ⟨(Union.toSketch_valid fits made).1, Union.toSketch_truthful fits made⟩

end Sketch

namespace Union

/-- Each slot of a walk lies one stride behind the one before, starting from slot 0. -/
theorem strides_eq_iterate (stride count : Nat) : strides stride count =
    List.iterate (fun slot => (slot + stride) % count) (stride % count) count := by
  have met (step : Nat) : (fun slot => (slot + stride) % count)^[step] (stride % count) =
      (step + 1) * stride % count := by
    induction step with
    | zero => simp
    | succ step ih =>
      rw [Function.iterate_succ_apply', ih, Nat.mod_add_mod, ← Nat.succ_mul]
  apply List.ext_getElem (by simp [strides])
  intro step _ _
  rw [List.getElem_iterate, met]
  simp [strides]

/-- Collecting a table joins its pairs to the matrix as setting their cells would. -/
theorem collectTable_bitMatrix {s after : Sketch} {table : PairTable} {lgSize : Nat}
    (size : table.slots.size = 2 ^ lgSize) (valid : s.Valid) (truthful : s.Truthful)
    (run : collectTable s table = .ok after) :
    after.Valid ∧ after.bitMatrix = s.bitMatrix.orPairs table.items := by
  have gathers := collectTable_gathers size valid truthful run
  refine ⟨gathers.valid, BitMatrix.ext_cells ?_ ?_⟩
  · rw [gathers.valid.size_bitMatrix, gathers.precision, BitMatrix.size_orPairs, valid.size_bitMatrix]
  · rw [gathers.cells, BitMatrix.cells_orPairs valid.size_bitMatrix, Finset.union_comm]

/-- A walk in strides gives each pair to the counter once. A walk over a power of two of
slots goes on by one stride at a time and, whatever number is made odd for the stride, meets
each slot once. So it collects the pairs of a table as often as they stand in its slots, and
a counter that is built by updates and merges has, if no update ends in a fault, its own
cells and those of the pairs, folded onto its rows. -/
theorem collectTable_joins_pairs (lgSize : Nat) :
    (∀ guess, strides (oddFrom guess) (2 ^ lgSize) =
        List.iterate (fun slot => (slot + oddFrom guess) % 2 ^ lgSize) (oddFrom guess % 2 ^ lgSize)
          (2 ^ lgSize) ∧
      (strides (oddFrom guess) (2 ^ lgSize)).Perm (List.range (2 ^ lgSize))) ∧
    (strideOrder (2 ^ lgSize)).Perm (List.range (2 ^ lgSize)) ∧
    ∀ table : PairTable, table.slots.size = 2 ^ lgSize →
      (walk table).Perm table.items ∧
      ∀ s after : Sketch, s.Built → collectTable s table = .ok after →
        ∃ before, s.bitMatrix? = .ok before ∧ before.size = s.precision.rows ∧
          after.bitMatrix? = .ok (before.orPairs table.items) := by
  refine ⟨fun guess => ⟨strides_eq_iterate _ _, strides_perm (oddFrom_odd guess)⟩,
    strides_perm (oddFrom_odd _), fun table size => ⟨walk_perm size, ?_⟩⟩
  intro s after built run
  obtain ⟨valid, truthful⟩ := built.sound
  obtain ⟨validAfter, matrix⟩ := collectTable_bitMatrix size valid truthful run
  exact ⟨s.bitMatrix, valid.bitMatrix?_eq, valid.size_bitMatrix, by
    rw [validAfter.bitMatrix?_eq, matrix]⟩

/-- A table of 32 rows in which one pair has gone round to the first slot. -/
def roundTable : PairTable :=
  ⟨2, 11, 3, #[Pair.pack 30 1, Pair.vacant, Pair.pack 20 40, Pair.pack 31 50]⟩

/-- Folded onto 16 rows with 69 coupons, that pair is known; the others move the window from
column 1 to column 2. -/
theorem collectTable_joins_pairs_moved : ∃ s after before,
    (Sketch.new Precision.least 9001).collectAll (Sketch.columnCoupons 69) = .ok s ∧ s.offset = 1 ∧
    collectTable s roundTable = .ok after ∧ after.offset = 2 ∧ s.bitMatrix? = .ok before ∧
    after.bitMatrix? = .ok (before.orPairs roundTable.items) := by
  have shape : ((Sketch.new Precision.least 9001).collectAll
      (Sketch.columnCoupons 69)).toOption.map (fun s => (s.offset, s.precision.lgK, s.numCoupons,
        (s.bitMatrix.orPairs roundTable.items).count)) = some (1, 4, 69, 71) := by decide +kernel
  obtain ⟨s, built, parts⟩ := exists_ok_of_map shape
  simp only [Prod.mk.injEq] at parts
  obtain ⟨offset, lgK, coupons, count⟩ := parts
  have source : roundTable.WellFormed :=
    (@PairTable.ofItems_spec _ 11 [Pair.pack 31 50, Pair.pack 30 1, Pair.pack 20 40] (by decide)
      (List.all_iff_forall_prop.mp (by decide)) (List.all_iff_forall_prop.mp (by decide)) rfl).1
  have destination : s.Built :=
    (Sketch.Built.new _ _).collected (Sketch.columnCoupons_inRange (by decide)) built
  obtain ⟨valid, truthful⟩ := destination.sound
  have rows : s.precision.rows = 16 := by rw [Precision.rows, lgK]
  obtain ⟨after, run⟩ := collectTable_total valid truthful source
    (Sketch.roomy_of_few (by rw [coupons, rows]; decide) (by omega))
  obtain ⟨before, expanded, _, joined⟩ :=
    ((collectTable_joins_pairs 2).2.2 _ rfl).2 s after destination run
  obtain ⟨validAfter, matrix⟩ := collectTable_bitMatrix (@rfl _ (2 ^ 2)) valid truthful run
  have precision := (collectTable_gathers (@rfl _ (2 ^ 2)) valid truthful run).precision
  refine ⟨s, after, before, built, offset, run, ?_, expanded, joined⟩
  rw [validAfter.offset_eq, ← validAfter.count, matrix, windowOffset, precision, rows]
  exact congrArg (fun total => (8 * total - 19 * 16) / (8 * 16)) count

end Union
end DistinctCount
