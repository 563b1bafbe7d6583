import DistinctCount.Proofs.RoundTrip

/-! The image of a merge. A union may have come by its cells in many ways, and hold them
in a table or in a matrix, but what is written of its result depends on the cells and
the precision alone. So counters may be merged in any order, more than once, and by way
of other unions. -/
namespace DistinctCount

variable {p : Precision} {seed : UInt64}

/-- Without a window a counter is its cells, but for its history. -/
theorem Sketch.Valid.alike_of_sparse {a b : Sketch} (validA : a.Valid) (validB : b.Valid)
    (precision : a.precision = b.precision) (same : a.bitMatrix = b.bitMatrix)
    (droppedA : a.Dropped) (droppedB : b.Dropped)
    (sparse : a.window = #[]) : a.Alike b := by
  have numCoupons : a.numCoupons = b.numCoupons := by rw [← validA.count, ← validB.count, same]
  have sparseB : b.window = #[] := by
    have windowA := windowed_eq_iff.mp validA.windowed
    have windowB := windowed_eq_iff.mp validB.windowed
    rwa [windowB, ← precision, ← numCoupons, ← windowA]
  have startA := validA.offset_sparse sparse
  have startB := validB.offset_sparse sparseB
  have interestingA := validA.interesting
  have interestingB := validB.interesting
  refine ⟨precision, by omega, numCoupons, by omega, sparse.trans sparseB.symm,
    droppedA.1.trans droppedB.1.symm, by rw [droppedA.2, droppedB.2, precision], ?_⟩
  rw [List.perm_ext_iff_of_nodup validA.table.distinct validB.table.distinct]
  intro pair
  rw [← cell_mem_itemCells, ← validA.cells_sparse sparse, same, validB.cells_sparse sparseB,
    cell_mem_itemCells]

namespace Union

variable {u v : Union}

def image (u : Union) : Except Fault (List UInt8) := u.toSketch >>= Sketch.toImage

theorem toSketch_sparse (fits : u.Fits) (sparse : 32 * u.state.bitMatrix.count < 3 * u.precision.rows) :
    ∃ r, u.toSketch = .ok r := by
  have size := fits.size
  have covered := fits.covered
  obtain ⟨precision, seed, state⟩ := u
  cases state with
  | accumulator s =>
    simp only [toSketch]
    split
    · exact ⟨_, rfl⟩
    · exact ⟨_, rfl⟩
  | matrix rows =>
    obtain ⟨r, made, _⟩ := Sketch.ofBitMatrix_sparse seed size covered sparse
    exact ⟨r, made⟩

theorem accumulator_sparse {s : Sketch} (fits : State.Fits p seed (.accumulator s)) :
    32 * s.bitMatrix.count < 3 * p.rows := by
  obtain ⟨valid, none, rfl, _⟩ := fits
  rw [valid.count]
  exact (Sketch.windowed_eq_iff.mp valid.windowed).mp none

/-- Unions of the same precision with the same cells result in the same image. -/
theorem image_eq (fitsU : u.Fits) (fitsV : v.Fits) (precision : u.precision = v.precision)
    (seeds : u.seed = v.seed) (cells : u.cells = v.cells) : u.image = v.image := by
  have same : u.state.bitMatrix = v.state.bitMatrix :=
    BitMatrix.ext_cells (by rw [fitsU.size, fitsV.size, precision]) cells
  by_cases sparse : 32 * u.state.bitMatrix.count < 3 * u.precision.rows
  · have rows := u.precision.rows_le
    obtain ⟨r, madeU⟩ := toSketch_sparse fitsU sparse
    obtain ⟨t, madeV⟩ := toSketch_sparse fitsV (by rwa [← same, ← precision])
    obtain ⟨validU, matrixU, precisionU, hashU, droppedU⟩ := toSketch_spec fitsU (by omega) madeU
    obtain ⟨validV, matrixV, precisionV, hashV, droppedV⟩ :=
      toSketch_spec fitsV (by rw [← same]; omega) madeV
    have none : r.window = #[] := by
      rw [Sketch.windowed_eq_iff.mp validU.windowed, ← validU.count, matrixU, precisionU]
      exact sparse
    have alike := validU.alike_of_sparse validV (by rw [precisionU, precisionV, precision])
      (by rw [matrixU, matrixV, same]) droppedU droppedV none
    have images := alike.toImage_eq (by rw [hashU, hashV, seeds])
    rw [image, image, madeU, madeV]
    exact images
  · obtain ⟨precisionU, seedU, stateU⟩ := u
    obtain ⟨precisionV, seedV, stateV⟩ := v
    cases stateU with
    | accumulator s => exact (sparse (accumulator_sparse fitsU)).elim
    | matrix rowsU =>
      cases stateV with
      | accumulator s =>
        have few := accumulator_sparse fitsV
        simp only [State.bitMatrix] at sparse same precision
        rw [same, precision] at sparse
        exact (sparse few).elim
      | matrix rowsV =>
        simp only [State.bitMatrix] at same precision seeds
        rw [same, precision, seeds]

/-! ### What a run merges -/

variable {a b sources : List Sketch} {cell : Nat × Nat}

/-- The matrices of counters, folded onto the rows of a precision and joined. -/
def foldedOr (p : Precision) (sources : List Sketch) : BitMatrix :=
  sources.foldl (fun m source => m.orFolded source.bitMatrix) (BitMatrix.zero p)

theorem foldedOr_spec (p : Precision) (sources : List Sketch) :
    (foldedOr p sources).size = p.rows ∧ ∀ cell, (cell ∈ (foldedOr p sources).cells ↔
      ∃ source ∈ sources, cell ∈ foldCells p source.bitMatrix.cells) := by
  have fold (m : BitMatrix) (size : m.size = p.rows) :
      (sources.foldl (fun m source => m.orFolded source.bitMatrix) m).size = p.rows ∧
        ∀ cell, (cell ∈ (sources.foldl (fun m source => m.orFolded source.bitMatrix) m).cells ↔
          cell ∈ m.cells ∨ ∃ source ∈ sources, cell ∈ foldCells p source.bitMatrix.cells) := by
    induction sources generalizing m with
    | nil => exact ⟨size, by simp⟩
    | cons source rest ih =>
      obtain ⟨sizeAfter, cells⟩ :=
        ih (m.orFolded source.bitMatrix) ((BitMatrix.size_orFolded _ _).trans size)
      refine ⟨sizeAfter, fun cell => ?_⟩
      rw [List.foldl_cons, cells, BitMatrix.cells_orFolded size, Finset.mem_union]
      simp [or_assoc]
  obtain ⟨size, cells⟩ := fold (BitMatrix.zero p) (BitMatrix.size_zero p)
  exact ⟨size, fun cell => (cells cell).trans (by simp)⟩

def Finer (seed : UInt64) (sources : List Sketch) (lgK : Nat) : Prop :=
  ∀ source ∈ accepted seed sources, source.isEmpty = false → lgK ≤ source.precision.lgK

def Brings (seed : UInt64) (q : Precision) (sources : List Sketch) (cell : Nat × Nat) : Prop :=
  ∃ source ∈ accepted seed sources, cell ∈ foldCells q source.bitMatrix.cells

theorem le_foldl_min {n start : Nat} {numbers : List Nat} :
    n ≤ numbers.foldl min start ↔ n ≤ start ∧ ∀ number ∈ numbers, n ≤ number := by
  induction numbers generalizing start with
  | nil => simp
  | cons number rest ih =>
    rw [List.foldl_cons, ih, le_min_iff, List.forall_mem_cons, and_assoc]

/-- A run from an empty union, said without the order of its counters. -/
theorem run_spec (valid : ∀ source ∈ accepted seed sources, source.Valid)
    (run : (new p seed).updateAll sources = .ok u) :
    u.Fits ∧ u.seed = seed ∧
      (∀ n, n ≤ u.precision.lgK ↔ n ≤ p.lgK ∧ Finer seed sources n) ∧
      ∀ cell, (cell ∈ u.cells ↔ Brings seed u.precision sources cell) := by
  obtain ⟨start, none⟩ := new_fits p seed
  obtain ⟨fits, sameSeed, lgK, _, held⟩ := updateAll_spec start valid run
  refine ⟨fits, sameSeed, fun n => ?_, fun cell => ?_⟩
  · have start : (new p seed).precision.lgK = p.lgK := rfl
    rw [lgK, le_foldl_min, start, List.forall_mem_map]
    simp only [List.mem_filter, Bool.not_eq_true', and_imp, Finer]
    rfl
  · rw [held, none, foldCells_empty]
    simp only [Finset.notMem_empty, false_or]
    rfl

/-- Lists of counters that come to the same: they lower the precision of a union alike, and
bring the same cells to it. -/
structure Equivalent (p : Precision) (seed : UInt64) (a b : List Sketch) : Prop where
  finer : ∀ n ≤ p.lgK, (Finer seed a n ↔ Finer seed b n)
  cells : ∀ q : Precision, q.lgK ≤ p.lgK → Finer seed a q.lgK → ∀ cell,
    (Brings seed q a cell ↔ Brings seed q b cell)

theorem Equivalent.symm (equivalent : Equivalent p seed a b) : Equivalent p seed b a :=
  ⟨fun n bound => (equivalent.finer n bound).symm, fun q bound finer cell =>
    (equivalent.cells q bound ((equivalent.finer _ bound).mpr finer) cell).symm⟩

theorem Equivalent.trans {c : List Sketch} (first : Equivalent p seed a b)
    (second : Equivalent p seed b c) : Equivalent p seed a c :=
  ⟨fun n bound => (first.finer n bound).trans (second.finer n bound), fun q bound finer cell =>
    (first.cells q bound finer cell).trans
      (second.cells q bound ((first.finer _ bound).mp finer) cell)⟩

/-- Runs over lists that come to the same end with the same precision and cells. -/
theorem Equivalent.image_eq (equivalent : Equivalent p seed a b)
    (validA : ∀ source ∈ accepted seed a, source.Valid)
    (validB : ∀ source ∈ accepted seed b, source.Valid)
    (runA : (new p seed).updateAll a = .ok u) (runB : (new p seed).updateAll b = .ok v) :
    u.image = v.image := by
  obtain ⟨fitsU, seedU, lgKU, cellsU⟩ := run_spec validA runA
  obtain ⟨fitsV, seedV, lgKV, cellsV⟩ := run_spec validB runB
  have same (n : Nat) : n ≤ u.precision.lgK ↔ n ≤ v.precision.lgK := by
    rw [lgKU, lgKV]
    exact and_congr_right fun bound => equivalent.finer n bound
  have precision : u.precision = v.precision :=
    Precision.ext_lgK (le_antisymm ((same _).mp (le_refl _)) ((same _).mpr (le_refl _)))
  obtain ⟨bound, finer⟩ := (lgKU _).mp (le_refl _)
  apply Union.image_eq fitsU fitsV precision (seedU.trans seedV.symm)
  ext cell
  rw [cellsU, cellsV, ← precision]
  exact equivalent.cells u.precision bound finer cell

/-! ### Regrouping -/

/-- The lists have the same counters, but for empty ones, order and repetition. -/
def SameSources (a b : List Sketch) : Prop :=
  ∀ source : Sketch, source.isEmpty = false → (source ∈ a ↔ source ∈ b)

theorem SameSources.equivalent (same : SameSources (accepted seed a) (accepted seed b))
    (validA : ∀ source ∈ accepted seed a, source.Valid)
    (validB : ∀ source ∈ accepted seed b, source.Valid) : Equivalent p seed a b := by
  -- A counter that brings a cell is not empty, so it is in both lists.
  have some {source : Sketch} {q : Precision} {cell : Nat × Nat} (valid : source.Valid)
      (member : cell ∈ foldCells q source.bitMatrix.cells) : source.isEmpty = false := by
    rw [Bool.eq_false_iff]
    intro empty
    rw [valid.cells_empty empty, foldCells_empty] at member
    exact Finset.notMem_empty _ member
  refine ⟨fun n _ => ?_, fun q _ _ cell => ?_⟩
  · constructor
    · exact fun finer source member full => finer source ((same source full).mpr member) full
    · exact fun finer source member full => finer source ((same source full).mp member) full
  · constructor
    · rintro ⟨source, member, brought⟩
      exact ⟨source, (same source (some (validA source member) brought)).mp member, brought⟩
    · rintro ⟨source, member, brought⟩
      exact ⟨source, (same source (some (validB source member) brought)).mpr member, brought⟩

/-- A counter that stands for others: it is one of them, or the result of a union, of the
same precision and seed at its start, that has merged counters which stand for them. -/
inductive Stands (p : Precision) (seed : UInt64) : Sketch → List Sketch → Prop
  | source {s : Sketch} : s.Valid → Stands p seed s [s]
  | merged {parts : List (Sketch × List Sketch)} {w : Union} {r : Sketch} :
      (∀ part ∈ parts, Stands p seed part.1 part.2) →
      (new p seed).updateAll (parts.map Prod.fst) = .ok w → w.state.bitMatrix.count < 2 ^ 32 →
      w.toSketch = .ok r → Stands p seed r (parts.flatMap Prod.snd)

theorem finer_flatMap {α : Type} {parts : List α} {list : α → List Sketch} {n : Nat} :
    Finer seed (parts.flatMap list) n ↔ ∀ part ∈ parts, Finer seed (list part) n := by
  simp only [Finer, accepted, List.mem_filter, List.mem_flatMap]
  constructor
  · rintro finer part member source ⟨listed, taken⟩
    exact finer source ⟨⟨part, member, listed⟩, taken⟩
  · rintro finer source ⟨⟨part, member, listed⟩, taken⟩
    exact finer part member source ⟨listed, taken⟩

theorem brings_flatMap {α : Type} {parts : List α} {list : α → List Sketch} {q : Precision} :
    Brings seed q (parts.flatMap list) cell ↔ ∃ part ∈ parts, Brings seed q (list part) cell := by
  simp only [Brings, accepted, List.mem_filter, List.mem_flatMap]
  constructor
  · rintro ⟨source, ⟨⟨part, member, listed⟩, taken⟩, brought⟩
    exact ⟨part, member, source, ⟨listed, taken⟩, brought⟩
  · rintro ⟨part, member, source, ⟨listed, taken⟩, brought⟩
    exact ⟨source, ⟨⟨part, member, listed⟩, taken⟩, brought⟩

theorem equivalent_of_parts {parts : List (Sketch × List Sketch)}
    (equivalent : ∀ part ∈ parts, Equivalent p seed [part.1] part.2) :
    Equivalent p seed (parts.map Prod.fst) (parts.flatMap Prod.snd) := by
  rw [List.map_eq_flatMap]
  refine ⟨fun n bound => ?_, fun q bound finer cell => ?_⟩
  · rw [finer_flatMap, finer_flatMap]
    exact forall₂_congr fun part member => (equivalent part member).finer n bound
  · rw [finer_flatMap] at finer
    rw [brings_flatMap, brings_flatMap]
    constructor
    · rintro ⟨part, member, brings⟩
      exact ⟨part, member, ((equivalent part member).cells q bound (finer part member) cell).mp brings⟩
    · rintro ⟨part, member, brings⟩
      exact ⟨part, member, ((equivalent part member).cells q bound (finer part member) cell).mpr brings⟩

/-- The result of a union comes to the same as the counters that it has merged. -/
theorem result_equivalent {r : Sketch} (valid : ∀ source ∈ accepted seed a, source.Valid)
    (run : (new p seed).updateAll a = .ok u) (few : u.state.bitMatrix.count < 2 ^ 32)
    (made : u.toSketch = .ok r) : r.Valid ∧ Equivalent p seed [r] a := by
  obtain ⟨fits, seedU, lgK, cells⟩ := run_spec valid run
  obtain ⟨validR, matrix, precision, hash, _⟩ := toSketch_spec fits few made
  have taken : accepted seed [r] = [r] := by
    rw [accepted, List.filter_cons_of_pos, List.filter_nil]
    rw [accepts, hash, seedU]
    exact beq_self_eq_true _
  have finer (n : Nat) (bound : n ≤ p.lgK) : Finer seed [r] n ↔ Finer seed a n := by
    rw [Finer, taken, List.forall_mem_singleton, precision]
    constructor
    · intro fine source member full
      have some : source.bitMatrix.cells ≠ ∅ := by
        rw [ne_eq, (valid source member).cells_eq_empty_iff, full]
        decide
      obtain ⟨⟨row, column⟩, set⟩ := Finset.nonempty_iff_ne_empty.mpr some
      have brought : (row % u.precision.rows, column) ∈ r.bitMatrix.cells := by
        rw [matrix]
        exact (cells _).mpr ⟨source, member, mem_foldCells.mpr ⟨row, rfl, set⟩⟩
      have nonempty : r.isEmpty = false := by
        rw [Bool.eq_false_iff, ne_eq, ← validR.cells_eq_empty_iff]
        exact Finset.ne_empty_of_mem brought
      exact ((lgK n).mp (fine nonempty)).2 source member full
    · intro fine _
      exact (lgK n).mpr ⟨bound, fine⟩
  refine ⟨validR, finer, fun q bound fine => ?_⟩
  have coarser : q.lgK ≤ u.precision.lgK := (lgK _).mpr ⟨bound, (finer _ bound).mp fine⟩
  rintro ⟨row, column⟩
  have folded (source : Sketch) : (row, column) ∈ foldCells q source.bitMatrix.cells ↔
      ∃ middle, middle % q.rows = row ∧ (middle, column) ∈ foldCells u.precision source.bitMatrix.cells := by
    rw [← foldCells_foldCells coarser, mem_foldCells]
  have result : Brings seed q [r] (row, column) ↔ (row, column) ∈ foldCells q u.cells := by
    simp [Brings, taken, matrix, Union.cells]
  rw [result, mem_foldCells]
  constructor
  · rintro ⟨middle, same, held⟩
    obtain ⟨source, member, brought⟩ := (cells _).mp held
    exact ⟨source, member, (folded source).mpr ⟨middle, same, brought⟩⟩
  · rintro ⟨source, member, brought⟩
    obtain ⟨middle, same, held⟩ := (folded source).mp brought
    exact ⟨middle, same, (cells _).mpr ⟨source, member, held⟩⟩

/-- A counter comes to the same as those that it stands for. -/
theorem Stands.spec {r : Sketch} (stands : Stands p seed r sources) :
    r.Valid ∧ (∀ source ∈ sources, source.Valid) ∧ Equivalent p seed [r] sources := by
  induction stands with
  | source valid => exact ⟨valid, by simpa using valid, ⟨fun _ _ => Iff.rfl, fun _ _ _ _ => Iff.rfl⟩⟩
  | @merged parts w r _ run few made ih =>
    have valid : ∀ source ∈ accepted seed (parts.map Prod.fst), source.Valid := by
      intro source member
      obtain ⟨part, listed, rfl⟩ := List.mem_map.mp (List.mem_of_mem_filter member)
      exact (ih part listed).1
    obtain ⟨validR, equivalent⟩ := result_equivalent valid run few made
    refine ⟨validR, ?_, equivalent.trans (equivalent_of_parts fun part member => (ih part member).2.2)⟩
    intro source member
    obtain ⟨part, listed, inside⟩ := List.mem_flatMap.mp member
    exact (ih part listed).2.1 source inside

end Union

theorem Sketch.Settled.toImage_total {s : Sketch} (settled : s.Settled) :
    ∃ bytes, s.toImage = .ok bytes := by
  by_cases half : s.precision.rows ≤ 2 * s.numCoupons
  · exact ⟨_, by rw [toImage, settled.imagePairs_windowed half]⟩
  · exact ⟨_, by rw [toImage, settled.imagePairs_listed (by omega)]⟩

namespace Union

variable {u v : Union} {a b : List Sketch}

end Union
end DistinctCount
