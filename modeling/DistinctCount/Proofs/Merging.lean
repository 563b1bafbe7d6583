import DistinctCount.Proofs.Folding
import DistinctCount.Proofs.FromMatrix
import DistinctCount.Proofs.Results
import DistinctCount.Proofs.Tally

/-! Merging refines the union of folded cells. Whichever way a counter is merged, and
whenever the precision drops, a union holds the cells of the counters it has accepted,
folded onto its rows. Reading the table alone is enough for an accumulator, because one
that outgrows the sparse layout becomes a matrix at once. -/
namespace DistinctCount

variable {p : Precision} {seed : UInt64} {s source : Sketch} {m : BitMatrix}

theorem Precision.ext_lgK {p q : Precision} (same : p.lgK = q.lgK) : p = q := by
  cases p
  cases q
  cases same
  rfl

namespace Sketch

theorem Valid.cells_eq_empty_iff (valid : s.Valid) : s.bitMatrix.cells = ∅ ↔ s.isEmpty = true := by
  rw [← Finset.card_eq_zero, ← BitMatrix.count_eq_card, valid.count, isEmpty, beq_iff_eq]

theorem Valid.cells_empty (valid : s.Valid) (empty : s.isEmpty = true) : s.bitMatrix.cells = ∅ :=
  valid.cells_eq_empty_iff.mpr empty

theorem Valid.truthful_sparse (valid : s.Valid) (none : s.window = #[]) : s.Truthful := by
  intro row _ column before
  have interesting := valid.interesting
  rw [valid.offset_sparse none] at interesting
  omega

end Sketch

namespace Union

variable {u after : Union}

/-- A state that a union can be in: a merged counter without a window, or a matrix of
its rows. -/
def State.Fits (p : Precision) (seed : UInt64) : State → Prop
  | .accumulator s => s.Valid ∧ s.window = #[] ∧ s.precision = p ∧ s.Dropped ∧
      Hash.seedHash s.seed = Hash.seedHash seed
  | .matrix rows => rows.size = p.rows ∧ rows.Covered p

def Fits (u : Union) : Prop := u.state.Fits u.precision u.seed

def cells (u : Union) : Finset (Nat × Nat) := u.state.bitMatrix.cells

theorem Fits.size (fits : u.Fits) : u.state.bitMatrix.size = u.precision.rows := by
  obtain ⟨precision, seed, state⟩ := u
  cases state with
  | accumulator s =>
    obtain ⟨valid, _, rfl, _⟩ := fits
    exact valid.size_bitMatrix
  | matrix rows => exact fits.1

theorem Fits.covered (fits : u.Fits) : u.state.bitMatrix.Covered u.precision := by
  obtain ⟨precision, seed, state⟩ := u
  cases state with
  | accumulator s =>
    obtain ⟨valid, _, rfl, _⟩ := fits
    exact valid.covered
  | matrix rows => exact fits.2

theorem new_fits (p : Precision) (seed : UInt64) : (new p seed).Fits ∧ (new p seed).cells = ∅ := by
  obtain ⟨valid, matrix⟩ := Sketch.newMerged_valid p seed
  refine ⟨⟨valid, rfl, rfl, Sketch.dropHistory_dropped _, rfl⟩, ?_⟩
  exact (congrArg BitMatrix.cells matrix).trans (BitMatrix.cells_zero p)

theorem ofSketch_fits (seed : UInt64) (valid : s.Valid) (precision : s.precision = p)
    (dropped : s.Dropped) (hash : Hash.seedHash s.seed = Hash.seedHash seed) :
    (State.ofSketch s).Fits p seed ∧ (State.ofSketch s).bitMatrix = s.bitMatrix := by
  rw [State.ofSketch]
  split
  · subst precision
    exact ⟨⟨valid.size_bitMatrix, valid.covered⟩, rfl⟩
  · rename_i narrow
    have none : s.window = #[] := by
      have windowed := valid.windowed
      rw [Bool.eq_false_of_not_eq_true narrow] at windowed
      simpa using windowed.symm
    exact ⟨⟨valid, none, precision, dropped, hash⟩, rfl⟩

/-- Adding folded cells of a valid counter keeps the vacant cell under the window: it
can only come from a counter of the same number of rows. -/
theorem covered_union (covered : m.Covered p) (valid : source.Valid)
    (finer : p.lgK ≤ source.precision.lgK) {more : BitMatrix}
    (cells : more.cells = m.cells ∪ foldCells p source.bitMatrix.cells) : more.Covered p := by
  intro member
  rw [cells, Finset.mem_union] at member
  rcases member with known | folded
  · exact covered.mono known (by rw [cells]; exact Finset.subset_union_left) (by simp [cells, known])
  · obtain ⟨row, position, member⟩ := mem_foldCells.mp folded
    have small := Nat.mod_lt row p.rows_pos
    have rows : 2 ^ 26 ≤ p.rows := by
      rw [position, Pair.row_vacant] at small
      omega
    have most : 26 ≤ p.lgK := (Nat.pow_le_pow_iff_right (by decide)).mp rows
    have same : p = source.precision :=
      Precision.ext_lgK (by have := source.precision.le_twentySix; omega)
    subst same
    rw [foldCells_of_lt (BitMatrix.rows_of_size valid.size_bitMatrix)] at cells folded
    exact valid.covered.mono folded (by rw [cells]; exact Finset.subset_union_right) (by simp [cells, folded])

/-- Lowering the precision folds the cells. -/
theorem reduce_spec (fits : u.Fits) (coarser : p.lgK < u.precision.lgK)
    (run : u.reduce p = .ok after) :
    after.Fits ∧ after.precision = p ∧ after.seed = u.seed ∧ after.cells = foldCells p u.cells := by
  have few : p.rows < 2 ^ 26 :=
    Nat.pow_lt_pow_right (by decide) (coarser.trans_le u.precision.le_twentySix)
  obtain ⟨precision, seed, state⟩ := u
  unfold reduce at run
  cases state with
  | matrix rows =>
    cases run
    have size : ((BitMatrix.zero p).orFolded rows).size = p.rows := by
      rw [BitMatrix.size_orFolded, BitMatrix.size_zero]
    refine ⟨⟨size, BitMatrix.Covered.of_few (by omega)⟩, rfl, rfl, ?_⟩
    have folded := BitMatrix.cells_orFolded (BitMatrix.size_zero p) rows
    rwa [BitMatrix.cells_zero, Finset.empty_union] at folded
  | accumulator s =>
    obtain ⟨valid, none, rfl, _, hash⟩ := fits
    dsimp only at run
    split at run
    · contradiction
    · rename_i collected gathered
      cases run
      obtain ⟨emptyValid, matrix⟩ := Sketch.newMerged_valid p seed
      have gathers := collectTable_gathers valid.table.size emptyValid
        (Sketch.newMerged_truthful p seed) gathered
      have dropped := gathers.kept.dropped gathers.precision (Sketch.dropHistory_dropped _)
      obtain ⟨fits, same⟩ := ofSketch_fits seed gathers.valid gathers.precision dropped
        (congrArg Hash.seedHash gathers.seed)
      refine ⟨fits, rfl, rfl, ?_⟩
      rw [cells, cells, same, gathers.cells, matrix, BitMatrix.cells_zero, Finset.union_empty,
        State.bitMatrix, valid.cells_sparse none]
      rfl

structure Adds (u : Union) (cells : Finset (Nat × Nat)) (after : Union) : Prop where
  fits : after.Fits
  precision : after.precision = u.precision
  seed : after.seed = u.seed
  cells : after.cells = u.cells ∪ foldCells u.precision cells

theorem absorbSparse_adds (fits : u.Fits) (valid : source.Valid)
    (finer : u.precision.lgK ≤ source.precision.lgK) (none : source.window = #[])
    (hash : Hash.seedHash source.seed = Hash.seedHash u.seed)
    (run : u.absorbSparse source = .ok after) : u.Adds source.bitMatrix.cells after := by
  have items := valid.cells_sparse none
  obtain ⟨precision, seed, state⟩ := u
  unfold absorbSparse at run
  cases state with
  | matrix rows =>
    cases run
    have cells := BitMatrix.cells_orPairs fits.1 source.table.items
    rw [← items] at cells
    exact ⟨⟨(BitMatrix.size_orPairs _ _).trans fits.1, covered_union fits.2 valid finer cells⟩,
      rfl, rfl, cells⟩
  | accumulator s =>
    obtain ⟨validS, noneS, rfl, droppedS, hashS⟩ := fits
    dsimp only at run
    split at run
    · rename_i takeover
      obtain ⟨empty, same⟩ := takeover
      cases run
      obtain ⟨fits, matrix⟩ := ofSketch_fits seed valid.dropHistory same.symm
        (Sketch.dropHistory_dropped source) hash
      refine ⟨fits, rfl, rfl, ?_⟩
      have folded : foldCells s.precision source.bitMatrix.cells = source.bitMatrix.cells :=
        foldCells_of_lt (BitMatrix.rows_of_size (valid.size_bitMatrix.trans (congrArg _ same.symm)))
      rw [folded, cells, cells, matrix, State.bitMatrix, validS.cells_empty empty, Finset.empty_union]
      rfl
    · split at run
      · contradiction
      · rename_i collected gathered
        cases run
        have gathers := collectTable_gathers valid.table.size validS
          (validS.truthful_sparse noneS) gathered
        have dropped := gathers.kept.dropped gathers.precision droppedS
        obtain ⟨fits, matrix⟩ := ofSketch_fits seed gathers.valid gathers.precision dropped
          ((congrArg Hash.seedHash gathers.seed).trans hashS)
        refine ⟨fits, rfl, rfl, ?_⟩
        rw [cells, cells, matrix, gathers.cells, State.bitMatrix, items, Finset.union_comm]

theorem absorb_adds (fits : u.Fits) (valid : source.Valid)
    (finer : u.precision.lgK ≤ source.precision.lgK)
    (hash : Hash.seedHash source.seed = Hash.seedHash u.seed)
    (run : u.absorb source = .ok after) : u.Adds source.bitMatrix.cells after := by
  have positive := source.precision.rows_pos
  have window := Sketch.windowed_eq_iff.mp valid.windowed
  have pinned (many : 3 * source.precision.rows ≤ 32 * source.numCoupons)
      (start : 8 * source.numCoupons < 27 * source.precision.rows) :
      u.Adds source.bitMatrix.cells
        { u with state := .matrix (orWindow u.state.bitMatrix source) } := by
    have matrix := valid.cells_pinned (mt window.mp (by omega))
      (valid.offset_eq.trans (windowOffset_eq_zero start))
    have size (rows : BitMatrix) : (u.state.bitMatrix.orFolded rows).size = u.precision.rows :=
      (BitMatrix.size_orFolded rows _).trans fits.size
    have cells : (orWindow u.state.bitMatrix source).cells =
        u.state.bitMatrix.cells ∪ foldCells u.precision source.bitMatrix.cells := by
      rw [orWindow, BitMatrix.cells_orPairs (size _), BitMatrix.cells_orFolded fits.size, matrix,
        foldCells_union, Finset.union_assoc]
    exact ⟨⟨(BitMatrix.size_orPairs _ _).trans (size _), covered_union fits.covered valid finer cells⟩,
      rfl, rfl, cells⟩
  have flavor : source.flavor = Flavor.ofCount source.precision source.numCoupons := rfl
  unfold absorb at run
  rcases ofCount_cases source.precision source.numCoupons with ⟨zero, layout⟩ | ⟨some, few, layout⟩ |
    ⟨many, few, layout⟩ | ⟨many, few, layout⟩ | ⟨many, layout⟩ <;>
    simp only [flavor, layout] at run
  · cases run
    have none := valid.cells_empty (by simp [Sketch.isEmpty, zero])
    exact ⟨fits, rfl, rfl, by rw [none, foldCells_empty, Finset.union_empty]⟩
  · exact absorbSparse_adds fits valid finer (window.mpr few) hash run
  · cases run
    exact pinned many (by omega)
  · cases run
    exact pinned (by omega) few
  · rw [valid.bitMatrix?_eq] at run
    cases run
    have cells := BitMatrix.cells_orFolded fits.size source.bitMatrix
    exact ⟨⟨(BitMatrix.size_orFolded _ _).trans fits.size, covered_union fits.covered valid finer cells⟩,
      rfl, rfl, cells⟩

/-- Whether a union of the given seed accepts a counter. -/
def accepts (seed : UInt64) (source : Sketch) : Bool :=
  Hash.seedHash source.seed == Hash.seedHash seed

theorem update_refused (refused : accepts u.seed source = false) :
    u.update source =
      .error (.error (.seedHash (Hash.seedHash u.seed) (Hash.seedHash source.seed))) := by
  have different : Hash.seedHash u.seed ≠ Hash.seedHash source.seed := by
    rintro same
    simp [accepts, same] at refused
  simp only [update]
  rw [if_pos different]

/-- An accepted counter lowers the precision where it has fewer rows, and its cells are
joined to those of the union. -/
theorem update_spec (fits : u.Fits) (valid : source.Valid) (run : u.update source = .ok after) :
    accepts u.seed source = true ∧ after.Fits ∧ after.seed = u.seed ∧
      after.precision.lgK =
        (if source.isEmpty then u.precision.lgK else min u.precision.lgK source.precision.lgK) ∧
      after.cells = foldCells after.precision (u.cells ∪ source.bitMatrix.cells) := by
  have kept : foldCells u.precision u.cells = u.cells :=
    foldCells_of_lt (BitMatrix.rows_of_size fits.size)
  cases hash : accepts u.seed source with
  | false =>
    rw [update_refused hash] at run
    cases run
  | true =>
    refine ⟨rfl, ?_⟩
    have hash : Hash.seedHash source.seed = Hash.seedHash u.seed := by simpa [accepts] using hash
    simp only [update, hash, ne_eq, not_true, if_false] at run
    split at run
    · rename_i empty
      cases run
      exact ⟨fits, rfl, by simp [empty], by rw [valid.cells_empty empty, Finset.union_empty, kept]⟩
    · rename_i some
      rw [if_neg some]
      split at run
      · rename_i coarser
        cases lowered : u.reduce source.precision with
        | error fault =>
          rw [lowered] at run
          cases run
        | ok reduced =>
          rw [lowered] at run
          obtain ⟨fits, precision, seed, cells⟩ := reduce_spec fits coarser lowered
          have adds := absorb_adds fits valid (by rw [precision]) (by rw [seed, hash])
            (Failure.ofFault_eq_ok.mp run)
          refine ⟨adds.fits, adds.seed.trans seed, ?_, ?_⟩
          · rw [adds.precision, precision]
            omega
          · rw [adds.cells, adds.precision, precision, cells, foldCells_union]
      · rename_i finer
        have adds := absorb_adds fits valid (by omega) hash (Failure.ofFault_eq_ok.mp run)
        refine ⟨adds.fits, adds.seed, ?_, ?_⟩
        · rw [adds.precision]
          omega
        · rw [adds.cells, adds.precision, foldCells_union, kept]

/-- A union after an update that may have been refused, which leaves it as it is. -/
def keep (u : Union) : Except Failure Union → Except Fault Union
  | .ok after => .ok after
  | .error (.error _) => .ok u
  | .error (.fault fault) => .error fault

/-- Merges one counter after another, as far as they are accepted. -/
def updateAll (u : Union) (sources : List Sketch) : Except Fault Union :=
  sources.foldlM (fun u source => u.keep (u.update source)) u

def accepted (seed : UInt64) (sources : List Sketch) : List Sketch := sources.filter (accepts seed)

theorem updateAll_cons {sources : List Sketch} (run : u.updateAll (source :: sources) = .ok after) :
    ∃ next, u.keep (u.update source) = .ok next ∧ next.updateAll sources = .ok after := by
  rw [updateAll, List.foldlM_cons] at run
  cases step : u.keep (u.update source) with
  | error fault =>
    rw [step] at run
    cases run
  | ok next =>
    rw [step] at run
    exact ⟨next, rfl, run⟩

theorem foldlM_append_kept {step : Union → Sketch → Except Fault Union} {sources : List Sketch}
    (run : sources.foldlM step u = .ok after) (kept : step after source = .ok after) :
    (sources ++ [source]).foldlM step u = .ok after := by
  rw [List.foldlM_append, run]
  exact congrArg (· >>= pure) kept

theorem updateAll_append_refused {sources : List Sketch} {error : Error}
    (run : u.updateAll sources = .ok after) (refused : after.update source = .error (.error error)) :
    u.updateAll (sources ++ [source]) = .ok after :=
  foldlM_append_kept run (by rw [refused, keep])

/-- An update is refused for the seed and for nothing else. -/
theorem keep_update_cases (step : u.keep (u.update source) = .ok after) :
    accepts u.seed source = false ∧ after = u ∨
      accepts u.seed source = true ∧ u.update source = .ok after := by
  cases hash : accepts u.seed source with
  | false =>
    rw [update_refused hash] at step
    cases step
    exact Or.inl ⟨rfl, rfl⟩
  | true =>
    refine Or.inr ⟨rfl, ?_⟩
    have hash : Hash.seedHash source.seed = Hash.seedHash u.seed := by simpa [accepts] using hash
    have absorbed {v : Union} (step : u.keep (Failure.ofFault (v.absorb source)) = .ok after) :
        Failure.ofFault (v.absorb source) = .ok after := by
      cases result : v.absorb source with
      | error fault =>
        rw [result] at step
        cases step
      | ok next =>
        rw [result] at step
        cases step
        rfl
    simp only [update, hash, ne_eq, not_true, if_false] at step ⊢
    split_ifs at step ⊢ with empty coarser
    · rw [Except.ok.inj step]
    · cases lowered : u.reduce source.precision with
      | error fault =>
        rw [lowered] at step
        cases step
      | ok reduced =>
        rw [lowered] at step
        exact absorbed step
    · exact absorbed step

/-- A union of counters has their least precision and their cells, folded. -/
theorem updateAll_spec {sources : List Sketch} (fits : u.Fits)
    (valid : ∀ source ∈ accepted u.seed sources, source.Valid) (run : u.updateAll sources = .ok after) :
    after.Fits ∧ after.seed = u.seed ∧
      after.precision.lgK = (((accepted u.seed sources).filter (!·.isEmpty)).map
        (·.precision.lgK)).foldl min u.precision.lgK ∧
      after.precision.lgK ≤ u.precision.lgK ∧
      ∀ cell, cell ∈ after.cells ↔ cell ∈ foldCells after.precision u.cells ∨
        ∃ source ∈ accepted u.seed sources, cell ∈ foldCells after.precision source.bitMatrix.cells := by
  induction sources generalizing u with
  | nil =>
    cases run
    have kept : foldCells after.precision after.cells = after.cells :=
      foldCells_of_lt (BitMatrix.rows_of_size fits.size)
    exact ⟨fits, rfl, rfl, le_refl _, by simp [accepted, kept]⟩
  | cons source rest ih =>
    obtain ⟨next, step, later⟩ := updateAll_cons run
    rcases keep_update_cases step with ⟨refused, rfl⟩ | ⟨accepting, updated⟩
    · have skipped : accepted next.seed (source :: rest) = accepted next.seed rest := by
        simp [accepted, refused]
      rw [skipped] at valid ⊢
      exact ih fits valid later
    · have taken : accepted u.seed (source :: rest) = source :: accepted u.seed rest := by
        simp [accepted, accepting]
      rw [taken, List.forall_mem_cons] at valid
      obtain ⟨_, fitsNext, seed, lgK, cells⟩ := update_spec fits valid.1 updated
      obtain ⟨fitsAfter, seedAfter, lgKAfter, coarser, cellsAfter⟩ :=
        ih fitsNext (seed ▸ valid.2) later
      rw [seed] at lgKAfter cellsAfter
      refine ⟨fitsAfter, seedAfter.trans seed, ?_, coarser.trans ?_, ?_⟩
      · rw [taken, lgKAfter, lgK]
        cases empty : source.isEmpty <;> simp [empty]
      · rw [lgK]
        split <;> omega
      · intro cell
        rw [cellsAfter, cells, foldCells_foldCells coarser, foldCells_union, taken]
        simp [or_assoc]

def State.bitMatrix? : State → Except Fault BitMatrix
  | .accumulator s => s.bitMatrix?
  | .matrix rows => .ok rows

theorem Fits.bitMatrix?_eq (fits : u.Fits) : u.state.bitMatrix? = .ok u.state.bitMatrix := by
  obtain ⟨precision, seed, state⟩ := u
  cases state with
  | accumulator s => exact fits.1.bitMatrix?_eq
  | matrix rows => rfl

theorem sparse_flavor (fits : State.Fits p seed (.accumulator s)) :
    s.flavor = .empty ∨ s.flavor = .sparse := by
  have few := (Sketch.windowed_eq_iff.mp fits.1.windowed).mp fits.2.1
  have positive := s.precision.rows_pos
  rcases ofCount_cases s.precision s.numCoupons with ⟨_, empty⟩ | ⟨_, _, sparse⟩ | windowed
  · exact Or.inl empty
  · exact Or.inr sparse
  · omega

/-- The result of a union has its cells, as long as their number has 32 bits. -/
theorem toSketch_spec (fits : u.Fits) (few : u.state.bitMatrix.count < 2 ^ 32) {r : Sketch}
    (made : u.toSketch = .ok r) :
    r.Valid ∧ r.bitMatrix = u.state.bitMatrix ∧ r.precision = u.precision ∧
      Hash.seedHash r.seed = Hash.seedHash u.seed ∧ r.Dropped := by
  have size := fits.size
  have covered := fits.covered
  obtain ⟨precision, seed, state⟩ := u
  unfold toSketch at made
  cases state with
  | accumulator s =>
    obtain ⟨valid, none, rfl, _, hash⟩ := fits
    dsimp only at made
    split at made
    · rename_i empty
      cases made
      obtain ⟨emptyValid, matrix⟩ := Sketch.newMerged_valid s.precision seed
      refine ⟨emptyValid, ?_, rfl, rfl, Sketch.dropHistory_dropped _⟩
      apply BitMatrix.ext_cells (emptyValid.size_bitMatrix.trans size.symm)
      refine (congrArg BitMatrix.cells matrix).trans ?_
      rw [BitMatrix.cells_zero]
      symm
      exact valid.cells_empty empty
    · cases made
      exact ⟨valid.dropHistory, rfl, rfl, hash, s.dropHistory_dropped⟩
  | matrix rows =>
    obtain ⟨valid, matrix, samePrecision, sameSeed, dropped⟩ :=
      Sketch.ofBitMatrix_spec size covered few made
    exact ⟨valid, matrix, samePrecision, congrArg Hash.seedHash sameSeed, dropped⟩

/-- A union is the union of the folded cells. It has the least precision of the
counters that bring cells; it is in one of its two states; the matrix it holds has a
cell for each cell of an accepted counter and no other; a counter of another seed is
refused and changes nothing; and the counter it results in has the same matrix. -/
theorem updateAll_refines_or (p : Precision) (seed : UInt64) (sources : List Sketch)
    (valid : ∀ source ∈ sources, source.Valid) (u : Union)
    (run : (new p seed).updateAll sources = .ok u) :
    u.precision.lgK = (((accepted seed sources).filter (!·.isEmpty)).map
      (·.precision.lgK)).foldl min p.lgK ∧
    (match u.state with
      | .accumulator s => s.precision = u.precision ∧ (s.flavor = .empty ∨ s.flavor = .sparse) ∧
          s.merged = true
      | .matrix rows => rows.size = u.precision.rows) ∧
    (∃ m, u.state.bitMatrix? = .ok m ∧ m.size = u.precision.rows ∧
      (∀ row < u.precision.rows, ∀ column < 64, (m.isSet row column = true ↔
        ∃ source ∈ accepted seed sources, ∃ sourceRow, sourceRow % u.precision.rows = row ∧
          source.bitMatrix.isSet sourceRow column = true)) ∧
      (m.count < 2 ^ 32 → ∀ r, u.toSketch = .ok r → r.bitMatrix? = .ok m)) ∧
    (∀ source, accepts seed source = false →
      u.update source =
        .error (.error (.seedHash (Hash.seedHash seed) (Hash.seedHash source.seed))) ∧
      (new p seed).updateAll (sources ++ [source]) = .ok u) := by
  obtain ⟨start, none⟩ := new_fits p seed
  obtain ⟨fits, sameSeed, lgK, _, held⟩ :=
    updateAll_spec start (fun source member => valid source (List.mem_of_mem_filter member)) run
  have refused {source : Sketch} (other : accepts seed source = false) : u.update source =
      .error (.error (.seedHash (Hash.seedHash seed) (Hash.seedHash source.seed))) := by
    have seeds : u.seed = seed := sameSeed
    rw [update_refused (seeds ▸ other), seeds]
  refine ⟨lgK, ?_, ⟨u.state.bitMatrix, fits.bitMatrix?_eq, fits.size, ?_, ?_⟩, ?_⟩
  · obtain ⟨precision, seed, state⟩ := u
    cases state with
    | accumulator s => exact ⟨fits.2.2.1, sparse_flavor fits, fits.2.2.2.1.1⟩
    | matrix rows => exact fits.1
  · intro row inside column small
    have member := held (row, column)
    rw [none, foldCells_empty] at member
    simp only [Finset.notMem_empty, false_or, mem_foldCells, cells, BitMatrix.mem_cells, small,
      true_and] at member
    exact member
  · intro few r made
    obtain ⟨validR, matrix, _⟩ := toSketch_spec fits few made
    rw [validR.bitMatrix?_eq, matrix]
  · intro source other
    exact ⟨refused other, updateAll_append_refused run (refused other)⟩

/-- A counter of 32 rows with a window. -/
def windowedSource : Sketch :=
  Sketch.ofCoupons Precision.thirtyTwo 9001 [Pair.pack 20 1, Pair.pack 3 9, Pair.pack 7 0]

def singleSource (p : Precision) : Sketch := Sketch.ofCoupons p 9001 [Pair.pack 2 2]

theorem windowedSource_valid : windowedSource.Valid :=
  Sketch.ofCoupons_valid (List.all_iff_forall_prop.mp (by decide))

theorem singleSource_valid (p : Precision) : (singleSource p).Valid := by
  apply Sketch.ofCoupons_valid
  intro coupon member
  rw [List.mem_singleton.mp member]
  exact ⟨lt_of_lt_of_le (by decide) p.sixteen_le_rows, by decide⟩

def foldedSources : List Sketch := [windowedSource, singleSource Precision.least]

/-- The counter with a window is folded onto the 16 rows of the other, and a counter of
another seed is refused. -/
theorem updateAll_refines_or_folded :
    ∃ u m, (new Precision.thirtyTwo 9001).updateAll foldedSources = .ok u ∧
      u.precision.lgK = 4 ∧ u.state.bitMatrix? = .ok m ∧ m.isSet 4 1 = true ∧
      ∃ error, u.update (Sketch.new Precision.least 1) = .error error := by
  have valid : ∀ source ∈ foldedSources, source.Valid := by
    simp only [foldedSources, List.mem_cons, List.not_mem_nil, or_false, forall_eq_or_imp, forall_eq]
    exact ⟨windowedSource_valid, singleSource_valid _⟩
  have coarser : ((new Precision.thirtyTwo 9001).updateAll foldedSources).toOption.map
      (·.precision.lgK) = some 4 := by decide +kernel
  obtain ⟨u, run, four⟩ := exists_ok_of_map coarser
  obtain ⟨_, _, ⟨m, held, size, cells, _⟩, refused⟩ := updateAll_refines_or _ 9001 _ valid u run
  have rows : u.precision.rows = 16 := by simp [Precision.rows, four]
  refine ⟨u, m, run, four, held, ?_, _, (refused _ (by decide +kernel)).1⟩
  rw [cells 4 (by omega) 1 (by decide), rows]
  exact ⟨_, List.mem_filter.mpr ⟨List.mem_cons_self, by decide +kernel⟩, 20, rfl, by decide +kernel⟩

end Union
end DistinctCount
