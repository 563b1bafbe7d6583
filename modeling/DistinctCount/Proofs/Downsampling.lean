import DistinctCount.Proofs.DistributedBuild

/-! Folding the rows of a counter comes to the same as hashing its items to fewer rows. The
low bits that choose one of few rows are among those that choose one of many, so a cell
that an item sets with many rows folds onto the cell it sets with few, and a union of few
rows makes of the fine counter what the items would have made by themselves. -/
namespace DistinctCount

variable {p q : Precision} {lanes : Hash.Lanes}

namespace Pair

/-- The pair that a hash chooses before the vacant word is avoided. -/
def chosen (p : Precision) (lanes : Hash.Lanes) : Pair :=
  pack (lanes.first.toNat % p.rows) (63 - Nat.log2 lanes.second.toNat)

theorem ofHash_of_named (named : chosen p lanes ≠ vacant) : ofHash p lanes = chosen p lanes :=
  if_neg named

theorem cell_chosen (p : Precision) (lanes : Hash.Lanes) :
    (chosen p lanes).cell = (lanes.first.toNat % p.rows, 63 - Nat.log2 lanes.second.toNat) := by
  have rows := p.rows_le
  have inside : lanes.first.toNat % p.rows < p.rows := Nat.mod_lt _ p.rows_pos
  rw [chosen, cell, row_pack (by omega) (by omega), column_pack (by omega) (by omega)]

/-- Only with all 2^26 rows can the vacant word be chosen, and then there are no more rows. -/
theorem chosen_named (coarser : p.lgK ≤ q.lgK) (named : chosen q lanes ≠ vacant) :
    chosen p lanes ≠ vacant := by
  intro reserved
  have row : lanes.first.toNat % p.rows = 2 ^ 26 - 1 := by
    rw [← row_vacant, ← reserved]
    exact (congrArg Prod.fst (cell_chosen p lanes)).symm
  have inside : lanes.first.toNat % p.rows < p.rows := Nat.mod_lt _ p.rows_pos
  have fewer := Nat.le_of_dvd q.rows_pos (Precision.rows_dvd coarser)
  have most := q.rows_le
  have same : q.rows = p.rows := by omega
  rw [chosen, same] at named
  exact named reserved

/-- The cell that a hash sets with many rows folds onto the one that it sets with few. -/
theorem cell_ofHash_fold (coarser : p.lgK ≤ q.lgK) (named : chosen q lanes ≠ vacant) :
    (ofHash p lanes).cell = ((ofHash q lanes).cell.1 % p.rows, (ofHash q lanes).cell.2) := by
  rw [ofHash_of_named named, ofHash_of_named (chosen_named coarser named), cell_chosen, cell_chosen,
    Nat.mod_mod_of_dvd _ (Precision.rows_dvd coarser)]

end Pair

namespace Aggregate

variable {seed : UInt64} {items : List (List UInt8)} {fine coarse : Sketch}

theorem cells_coarse (coarser : p.lgK ≤ q.lgK)
    (named : ∀ item ∈ items, Pair.chosen q (Hash.digest seed item) ≠ Pair.vacant)
    (runFine : updateAll items (Sketch.new q seed) = .ok fine)
    (runCoarse : updateAll items (Sketch.new p seed) = .ok coarse) :
    coarse.bitMatrix.cells = foldCells p fine.bitMatrix.cells := by
  obtain ⟨_, _, _, cellsFine⟩ := updateAll_spec runFine
  obtain ⟨_, _, _, cellsCoarse⟩ := updateAll_spec runCoarse
  have folds {item : List UInt8} (member : item ∈ items) : itemCell p seed item =
      ((itemCell q seed item).1 % p.rows, (itemCell q seed item).2) :=
    Pair.cell_ofHash_fold coarser (named item member)
  ext ⟨row, column⟩
  rw [cellsCoarse, mem_foldCells]
  constructor
  · rintro ⟨item, member, here⟩
    cases (folds member).symm.trans here
    exact ⟨_, rfl, (cellsFine _).mpr ⟨item, member, rfl⟩⟩
  · rintro ⟨source, folded, set⟩
    obtain ⟨item, member, here⟩ := (cellsFine _).mp set
    refine ⟨item, member, ?_⟩
    rw [folds member, here, folded]

end Aggregate

namespace Union

variable {seed : UInt64} {source : Sketch} {u : Union}

theorem update_new (valid : source.Valid) (sameSeed : source.seed = seed)
    (coarser : p.lgK ≤ source.precision.lgK)
    (noFault : ∀ fault, (new p seed).update source ≠ .error (.fault fault)) :
    ∃ u, (new p seed).update source = .ok u ∧ u.Fits ∧ u.precision = p ∧
      u.cells = foldCells p source.bitMatrix.cells := by
  have accepting : accepts (new p seed).seed source = true := by
    simp [accepts, sameSeed, new]
  cases run : (new p seed).update source with
  | error failure =>
    cases failure with
    | error refusal => exact (update_ne_error accepting run).elim
    | fault fault => exact (noFault fault run).elim
  | ok u =>
    obtain ⟨fits, empty⟩ := new_fits p seed
    obtain ⟨_, fitsU, _, least, cells⟩ := update_spec fits valid run
    have precision : u.precision = p := by
      apply Precision.ext_lgK
      rw [least]
      split
      · rfl
      · exact Nat.min_eq_left coarser
    rw [empty, Finset.empty_union, precision] at cells
    exact ⟨u, rfl, fitsU, precision, cells⟩

theorem toSketch_of_cells {s : Sketch} (fits : u.Fits) (settled : s.Settled)
    (precision : u.precision = s.precision) (cells : u.cells = s.bitMatrix.cells) :
    ∃ r, u.toSketch = .ok r ∧ r.Valid ∧ r.precision = s.precision ∧ r.bitMatrix = s.bitMatrix ∧
      r.merged = true := by
  have matrix : u.state.bitMatrix = s.bitMatrix := by
    refine BitMatrix.ext_cells ?_ cells
    rw [fits.size, settled.size_bitMatrix, precision]
  have few : u.state.bitMatrix.count < 2 ^ 32 := by
    rw [matrix, settled.count]
    exact settled.numCoupons_lt
  have room := settled.surprises_fit
  rw [settled.offset_eq, ← settled.count, ← matrix, ← precision] at room
  obtain ⟨r, made⟩ := toSketch_total fits few room
  obtain ⟨valid, same, precisionR, _, dropped⟩ := toSketch_spec fits few made
  exact ⟨r, made, valid, precisionR.trans precision, same.trans matrix, dropped.1⟩

end Union

namespace Aggregate

/-- Counting items with many rows and merging the counter into a union of few comes to the
same coupons as counting them with few rows at once, in whatever layout either counter is.
The result is a merged counter, and there is one wherever the items can be counted with
few rows. -/
theorem merge_finer_eq_count_coarser (seed : UInt64) (items : List (List UInt8)) (p q : Precision)
    (coarser : p.lgK ≤ q.lgK)
    (named : ∀ item ∈ items, Pair.chosen q (Hash.digest seed item) ≠ Pair.vacant)
    (fine coarse : Sketch) (runFine : updateAll items (Sketch.new q seed) = .ok fine)
    (runCoarse : updateAll items (Sketch.new p seed) = .ok coarse)
    (noFault : ∀ fault, (Union.new p seed).update fine ≠ .error (.fault fault)) :
    ∃ u r m, (Union.new p seed).update fine = .ok u ∧ u.toSketch = .ok r ∧
      r.precision = p ∧ coarse.precision = p ∧ r.numCoupons = coarse.numCoupons ∧
      r.bitMatrix? = .ok m ∧ coarse.bitMatrix? = .ok m ∧ r.merged = true := by
  obtain ⟨settledFine, precisionFine, sameSeed, _⟩ := updateAll_spec runFine
  obtain ⟨settled, precision, _, _⟩ := updateAll_spec runCoarse
  obtain ⟨u, merged, fits, precisionU, cells⟩ :=
    Union.update_new settledFine.toValid sameSeed (precisionFine ▸ coarser) noFault
  rw [← cells_coarse coarser named runFine runCoarse] at cells
  obtain ⟨r, made, valid, precisionR, matrix, lost⟩ :=
    Union.toSketch_of_cells fits settled (precisionU.trans precision.symm) cells
  refine ⟨u, r, coarse.bitMatrix, merged, made, precisionR.trans precision, precision, ?_, ?_,
    settled.bitMatrix?_eq, lost⟩
  · rw [← valid.count, matrix, settled.count]
  · rw [valid.bitMatrix?_eq, matrix]

def fineRows : Precision := ⟨8, by decide, by decide⟩

def twentyItems : List (List UInt8) := (List.range 20).map fun i => [UInt8.ofNat i]

/-- Twenty items fit the table of a counter with 256 rows. Merged into a union of 16 rows they
outgrow its accumulator, and counted with 16 rows they open the window. -/
theorem merge_finer_eq_count_coarser_twenty : ∃ fine coarse u r m,
    updateAll twentyItems (Sketch.new fineRows 9001) = .ok fine ∧ fine.flavor = .sparse ∧
    updateAll twentyItems (Sketch.new Precision.least 9001) = .ok coarse ∧ coarse.flavor = .pinned ∧
    (Union.new Precision.least 9001).update fine = .ok u ∧ u.toSketch = .ok r ∧
    r.numCoupons = coarse.numCoupons ∧ r.bitMatrix? = .ok m ∧ coarse.bitMatrix? = .ok m := by
  have shapeFine : (updateAll twentyItems (Sketch.new fineRows 9001)).toOption.map Sketch.flavor =
      some .sparse := by decide +kernel
  have shapeCoarse : (updateAll twentyItems (Sketch.new Precision.least 9001)).toOption.map
      Sketch.flavor = some .pinned := by decide +kernel
  obtain ⟨fine, runFine, sparse⟩ := exists_ok_of_map shapeFine
  obtain ⟨coarse, runCoarse, pinned⟩ := exists_ok_of_map shapeCoarse
  obtain ⟨settled, precision, seed, _⟩ := updateAll_spec runFine
  have named : ∀ item ∈ twentyItems,
      Pair.chosen fineRows (Hash.digest 9001 item) ≠ Pair.vacant :=
    List.all_iff_forall_prop.mp (by decide +kernel)
  obtain ⟨v, run⟩ := Union.update_total (Union.new_fits Precision.least 9001).1
    settled.toValid (by simp [Union.accepts, Union.new, seed]) (fun _ => by rw [precision]; decide)
    (fun _ => Or.inl (Union.new_fits _ _).2)
  have noFault (fault : Fault) :
      (Union.new Precision.least 9001).update fine ≠ .error (.fault fault) := by
    simp [run]
  obtain ⟨u, r, m, merged, made, _, _, count, matrix, same, _⟩ :=
    merge_finer_eq_count_coarser 9001 _ _ _ (by decide) named fine coarse runFine runCoarse noFault
  exact ⟨fine, coarse, u, r, m, runFine, sparse, runCoarse, pinned, merged, made, count, matrix, same⟩

end Aggregate
end DistinctCount
