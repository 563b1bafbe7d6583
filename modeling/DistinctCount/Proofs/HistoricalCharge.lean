import DistinctCount.Proofs.CouponSet
import DistinctCount.Proofs.Folding
import DistinctCount.Proofs.Results

/-! The history of a counter. What a counter has charged can be computed from the coupons
alone, without table, window or any other layout: from the first occurrence of each coupon,
in the order in which they came. -/
namespace DistinctCount

namespace Hip

/-- One more coupon in the history of different coupons. The mass of clear cells is summed
afresh if the window comes to a column that is a multiple of eight. -/
def reckonNext (p : Precision) : List Pair × Hip → Pair → List Pair × Hip
  | (past, ⟨kxp, accumulated⟩), coupon =>
    let now := past ++ [coupon]
    let accumulated := accumulated + p.rowsFloat / kxp
    let kxp := kxp - inversePower (coupon.column + 1)
    let offset := windowOffset p now.length
    if windowOffset p past.length < offset ∧ offset % 8 = 0 then
      (now, ⟨massOf ((BitMatrix.zero p).orPairs now), accumulated⟩)
    else (now, ⟨kxp, accumulated⟩)

/-- The history of different coupons. -/
def reckon (p : Precision) (coupons : List Pair) : Hip :=
  (coupons.foldl (reckonNext p) ([], ⟨p.rowsFloat, 0.0⟩)).2

variable {p : Precision} {past : List Pair}

theorem reckonNext_fst (known : List Pair × Hip) (coupon : Pair) :
    (reckonNext p known coupon).1 = known.1 ++ [coupon] := by
  unfold reckonNext
  dsimp only
  split <;> rfl

theorem foldl_reckonNext_fst (coupons : List Pair) (known : List Pair × Hip) :
    (coupons.foldl (reckonNext p) known).1 = known.1 ++ coupons := by
  induction coupons generalizing known with
  | nil => rw [List.foldl_nil, List.append_nil]
  | cons coupon rest ih => rw [List.foldl_cons, ih, reckonNext_fst, List.append_assoc, List.singleton_append]

theorem reckon_concat (coupon : Pair) :
    reckon p (past ++ [coupon]) = (reckonNext p (past, reckon p past) coupon).2 := by
  have known : past.foldl (reckonNext p) ([], ⟨p.rowsFloat, 0.0⟩) = (past, reckon p past) :=
    Prod.ext (foldl_reckonNext_fst past _) rfl
  rw [reckon, List.foldl_concat, known]

/-- A coupon with which the window stays, or comes to a column in between, is charged. -/
theorem reckon_concat_charge {coupon : Pair}
    (same : ¬ (windowOffset p past.length < windowOffset p (past.length + 1) ∧
      windowOffset p (past.length + 1) % 8 = 0)) :
    reckon p (past ++ [coupon]) = (reckon p past).charge p coupon.column := by
  rw [reckon_concat, reckonNext]
  simp only [List.length_append, List.length_singleton, if_neg same]
  rfl

theorem reckon_concat_refresh {coupon : Pair}
    (moves : windowOffset p past.length < windowOffset p (past.length + 1) ∧
      windowOffset p (past.length + 1) % 8 = 0) :
    reckon p (past ++ [coupon]) = ((reckon p past).charge p coupon.column).refresh
      ((BitMatrix.zero p).orPairs (past ++ [coupon])) := by
  rw [reckon_concat, reckonNext]
  simp only [List.length_append, List.length_singleton, if_pos moves]
  rfl

end Hip

namespace Sketch

variable {p : Precision} {seed : UInt64} {s after : Sketch} {past coupons : List Pair} {pair : Pair}

theorem eraseDups_concat_of_mem (known : pair ∈ past) :
    (past ++ [pair]).eraseDups = past.eraseDups := by
  simp [List.eraseDups_append, List.cons_removeAll, known]

theorem eraseDups_concat_of_notMem (fresh : pair ∉ past) :
    (past ++ [pair]).eraseDups = past.eraseDups ++ [pair] := by
  simp [List.eraseDups_append, List.cons_removeAll, List.eraseDups_cons, fresh]

theorem bitMatrix_eq_orPairs (layout : s.Layout) (inside : ∀ pair ∈ past, pair.InRange s.precision)
    (cells : s.bitMatrix.cells = (past.map Pair.cell).toFinset) :
    s.bitMatrix = (BitMatrix.zero s.precision).orPairs past.eraseDups := by
  have same : (past.eraseDups.map Pair.cell).toFinset = (past.map Pair.cell).toFinset := by
    ext cell
    simp
  have rows : ∀ cell ∈ (past.map Pair.cell).toFinset, cell.1 < s.precision.rows := by
    intro cell member
    obtain ⟨pair, listed, rfl⟩ := List.mem_map.mp (List.mem_toFinset.mp member)
    exact (inside pair listed).1
  apply BitMatrix.ext_cells
  · rw [layout.size_bitMatrix, BitMatrix.size_orPairs, BitMatrix.size_zero]
  · rw [BitMatrix.cells_orPairs (BitMatrix.size_zero _), BitMatrix.cells_zero, Finset.empty_union, same,
      foldCells_of_lt rows, cells]

/-- A new coupon continues the history: if the window moves to a multiple of eight, with the
mass of the matrix that holds the coupon already. -/
theorem Collects.reckon {distinct : List Pair} (collects : s.Collects pair after) (valid : s.Valid)
    (count : s.numCoupons = distinct.length)
    (matrix : after.bitMatrix = (BitMatrix.zero s.precision).orPairs (distinct ++ [pair]))
    (own : s.merged = false) (history : s.hipState = Hip.reckon s.precision distinct) :
    after.hipState = Hip.reckon s.precision (distinct ++ [pair]) := by
  have before : s.offset = windowOffset s.precision distinct.length := by
    rw [valid.offset_eq, count]
  have now : after.offset = windowOffset s.precision (distinct.length + 1) := by
    rw [collects.valid.offset_eq, collects.precision, collects.numCoupons, count]
  rcases collects.step with stays | moves
  · rw [stays.hipState, chargedHip, own, if_neg Bool.false_ne_true, history, Hip.reckon_concat_charge]
    rw [← before, ← now, stays.offset]
    exact fun moved => Nat.lt_irrefl _ moved.1
  · have further : windowOffset s.precision distinct.length <
        windowOffset s.precision (distinct.length + 1) := by
      rw [← before, ← now, moves.offset]
      exact Nat.lt_succ_self _
    rw [moves.hipState, own, if_neg Bool.false_ne_true, history, now, matrix]
    dsimp only
    split
    · rename_i eighth
      rw [Hip.reckon_concat_refresh ⟨further, eighth⟩]
    · rename_i between
      rw [Hip.reckon_concat_charge fun moved => between moved.2]

/-- A counter has been given some coupons, and its history is that of their first occurrences. -/
structure Reckons (p : Precision) (past : List Pair) (s : Sketch) : Prop where
  precision : s.precision = p
  valid : s.Valid
  truthful : s.Truthful
  inside : ∀ pair ∈ past, pair.InRange p
  cells : s.bitMatrix.cells = (past.map Pair.cell).toFinset
  numCoupons : s.numCoupons = past.eraseDups.length
  own : s.merged = false
  history : s.hipState = Hip.reckon p past.eraseDups

theorem Reckons.start (p : Precision) (seed : UInt64) : Reckons p [] (new p seed) := by
  obtain ⟨valid, matrix⟩ := new_valid p seed
  refine ⟨rfl, valid, new_truthful p seed, nofun, ?_, rfl, rfl, rfl⟩
  exact (congrArg BitMatrix.cells matrix).trans (BitMatrix.cells_zero p)

namespace Reckons

theorem mem_cells_iff (reckons : Reckons p past s) : pair.cell ∈ s.bitMatrix.cells ↔ pair ∈ past := by
  rw [reckons.cells, List.mem_toFinset, List.mem_map_of_injective Pair.cell_injective]

/-- One coupon is charged just if it is met for the first time. -/
theorem collect (reckons : Reckons p past s) (inside : pair.InRange p)
    (run : s.collect pair = .ok after) : Reckons p (past ++ [pair]) after := by
  obtain rfl := reckons.precision
  have gathers := collect_gathers reckons.valid reckons.truthful inside run
  have all : ∀ other ∈ past ++ [pair], other.InRange s.precision := by
    intro other member
    rcases List.mem_append.mp member with earlier | last
    · exact reckons.inside other earlier
    · rwa [List.mem_singleton.mp last]
  have cells : after.bitMatrix.cells = ((past ++ [pair]).map Pair.cell).toFinset := by
    rw [gathers.cells, reckons.cells, List.map_append, List.toFinset_append, Finset.union_comm]
    rfl
  rcases collect_cases reckons.valid inside run with ⟨rfl, -⟩ | ⟨clear, collects⟩
  · have known : pair ∈ past := by
      rw [← reckons.mem_cells_iff, gathers.cells]
      exact Finset.mem_union_left _ (Finset.mem_singleton_self _)
    have same := eraseDups_concat_of_mem known
    exact ⟨rfl, gathers.valid, gathers.truthful, all, cells, same ▸ reckons.numCoupons,
      reckons.own, same ▸ reckons.history⟩
  · have more := eraseDups_concat_of_notMem (mt reckons.mem_cells_iff.mpr clear)
    have count : after.numCoupons = past.eraseDups.length + 1 := by
      rw [collects.numCoupons, reckons.numCoupons]
    refine ⟨gathers.precision, gathers.valid, gathers.truthful, all, cells, ?_,
      collects.merged.trans reckons.own, ?_⟩
    · rw [more, count, List.length_append, List.length_singleton]
    · have matrix := bitMatrix_eq_orPairs gathers.valid.toLayout (gathers.precision ▸ all) cells
      rw [gathers.precision, more] at matrix
      rw [more]
      exact collects.reckon reckons.valid reckons.numCoupons matrix reckons.own reckons.history

theorem collectAll (reckons : Reckons p past s) (inside : ∀ pair ∈ coupons, pair.InRange p)
    (run : s.collectAll coupons = .ok after) : Reckons p (past ++ coupons) after := by
  induction coupons generalizing s past with
  | nil =>
    cases run
    rwa [List.append_nil]
  | cons pair rest ih =>
    obtain ⟨next, collected, run⟩ := Sketch.collectAll_cons.mp run
    have step := reckons.collect (inside pair List.mem_cons_self) collected
    rw [List.append_cons]
    exact ih step (fun other member => inside other (List.mem_cons_of_mem _ member)) run

end Reckons

/-- Each distinct coupon is charged to the history once, when it is met first. -/
theorem collectAll_charges_once (p : Precision) (seed : UInt64) (coupons : List Pair)
    (inside : ∀ coupon ∈ coupons, coupon.InRange p) (s : Sketch)
    (run : (new p seed).collectAll coupons = .ok s) :
    s.merged = false ∧ s.hipState = Hip.reckon p coupons.eraseDups := by
  have reckons := (Reckons.start p seed).collectAll inside run
  exact ⟨reckons.own, reckons.history⟩

/-- Column after column of 16 rows, with the first coupon repeated after each other one. -/
def repeatedCoupons : List Pair :=
  (columnCoupons 166).flatMap fun coupon => [coupon, Pair.pack 0 0]

/-- The last new coupon moves the window to column 8, and the mass is that of all 166 coupons. -/
theorem collectAll_charges_once_refreshed :
    ∃ s, (new Precision.least 9001).collectAll repeatedCoupons = .ok s ∧
      s.numCoupons = 166 ∧ s.offset = 8 ∧ s.merged = false ∧
      s.hipState.kxp = Hip.massOf ((BitMatrix.zero Precision.least).orPairs (columnCoupons 166)) := by
  have inside : ∀ coupon ∈ repeatedCoupons, coupon.InRange Precision.least := by
    intro coupon member
    obtain ⟨first, listed, member⟩ := List.mem_flatMap.mp member
    rcases List.mem_pair.mp member with rfl | rfl
    · exact columnCoupons_inRange (by decide) _ listed
    · decide
  have moved : ((new Precision.least 9001).collectAll repeatedCoupons).toOption.map
      (fun s => (s.numCoupons, s.offset)) = some (166, 8) := by decide +kernel
  have first : repeatedCoupons.eraseDups = columnCoupons 166 := by decide +kernel
  obtain ⟨s, run, parts⟩ := exists_ok_of_map moved
  obtain ⟨count, offset⟩ := Prod.mk.inj parts
  obtain ⟨own, charged⟩ := collectAll_charges_once _ 9001 _ inside s run
  rw [first, columnCoupons_succ, Hip.reckon_concat_refresh (by decide +kernel),
    ← columnCoupons_succ] at charged
  exact ⟨s, run, count, offset, own, by rw [charged, Hip.refresh]⟩

end Sketch
end DistinctCount
