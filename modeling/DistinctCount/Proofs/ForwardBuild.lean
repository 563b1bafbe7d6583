import DistinctCount.Proofs.Invariance

/-! Counters are built forward only. Along a run of updates the number of coupons, the
layout, the window and the first interesting column never go back, one update takes the
first and the third at most one step on, and the columns that are passed over are full at
every point. -/
namespace DistinctCount

theorem Flavor.code_mono (p : Precision) {few many : Nat} (less : few ≤ many) :
    (Flavor.ofCount p few).code ≤ (Flavor.ofCount p many).code := by
  have positive := p.rows_pos
  unfold Flavor.ofCount
  split_ifs <;> first | decide | omega

namespace Sketch

variable {s next after : Sketch} {pair : Pair} {coupons earlier later : List Pair} {updates more : Nat}

/-- A counter that comes at most so many updates after another. -/
structure Advances (s : Sketch) (updates : Nat) (after : Sketch) : Prop where
  numCoupons : s.numCoupons ≤ after.numCoupons
  numCoupons_near : after.numCoupons ≤ s.numCoupons + updates
  flavor : s.flavor.code ≤ after.flavor.code
  offset : s.offset ≤ after.offset
  offset_near : after.offset ≤ s.offset + updates
  interesting : s.firstInteresting ≤ after.firstInteresting

theorem Advances.refl (s : Sketch) (updates : Nat) : s.Advances updates s :=
  ⟨le_rfl, Nat.le_add_right _ _, le_rfl, le_rfl, Nat.le_add_right _ _, le_rfl⟩

theorem Advances.trans (first : s.Advances updates next) (second : next.Advances more after) :
    s.Advances (updates + more) after where
  numCoupons := first.numCoupons.trans second.numCoupons
  numCoupons_near := by
    have := first.numCoupons_near
    have := second.numCoupons_near
    omega
  flavor := first.flavor.trans second.flavor
  offset := first.offset.trans second.offset
  offset_near := by
    have := first.offset_near
    have := second.offset_near
    omega
  interesting := first.interesting.trans second.interesting

/-- A window that moves finds no gap in a column that was passed over: the column was full
and the matrix only grows, though it is looked for among other surprises than before. -/
theorem Collects.interesting_le (collects : s.Collects pair after) (valid : s.Valid)
    (truthful : s.Truthful) : s.firstInteresting ≤ after.firstInteresting := by
  rcases collects.step with stays | moves
  · exact stays.interesting.ge
  · have before : s.firstInteresting ≤ after.offset := by
      have := valid.interesting
      have := moves.offset
      omega
    rw [moves.interesting]
    apply le_firstSurprise collects.valid.offset_lt before
    intro row inside column passed
    rw [collects.valid.size_bitMatrix, collects.precision] at inside
    have within : column < 64 := passed.trans_le (valid.interesting.trans valid.offset_lt.le)
    exact collects.isSet within (truthful row inside column passed)

theorem Collects.advances (collects : s.Collects pair after) (valid : s.Valid)
    (truthful : s.Truthful) : s.Advances 1 after := by
  have count := collects.numCoupons
  have grows : s.numCoupons ≤ after.numCoupons := by omega
  refine ⟨grows, by omega, ?_, ?_, ?_, collects.interesting_le valid truthful⟩
  · rw [flavor, flavor, collects.precision]
    exact Flavor.code_mono s.precision grows
  · rw [valid.offset_eq, collects.valid.offset_eq, collects.precision]
    exact windowOffset_mono s.precision grows
  · rw [valid.offset_eq, collects.valid.offset_eq, collects.precision, count]
    exact windowOffset_succ_le s.precision s.numCoupons

/-! ### Runs -/

/-- An update with any word goes forward, and what is passed over stays full. -/
theorem collect_advances (valid : s.Valid) (truthful : s.Truthful)
    (run : s.collect pair = .ok after) : s.Advances 1 after ∧ after.Valid ∧ after.Truthful := by
  rcases collect_step valid run with ⟨_, rfl⟩ | ⟨_, collects⟩
  · exact ⟨.refl after 1, valid, truthful⟩
  · exact ⟨collects.advances valid truthful, collects.valid, collects.truthful truthful⟩

theorem collectAll_advances (valid : s.Valid) (truthful : s.Truthful)
    (run : s.collectAll coupons = .ok after) :
    s.Advances coupons.length after ∧ after.Valid ∧ after.Truthful := by
  induction coupons generalizing s with
  | nil =>
    cases run
    exact ⟨.refl after 0, valid, truthful⟩
  | cons pair rest ih =>
    obtain ⟨next, collected, run⟩ := collectAll_cons.mp run
    obtain ⟨step, nextValid, nextTruthful⟩ := collect_advances valid truthful collected
    obtain ⟨run, keeps⟩ := ih nextValid nextTruthful run
    refine ⟨?_, keeps⟩
    rw [List.length_cons, Nat.add_comm]
    exact step.trans run

theorem collectAll_append (run : s.collectAll (earlier ++ later) = .ok after) :
    ∃ next, s.collectAll earlier = .ok next ∧ next.collectAll later = .ok after := by
  induction earlier generalizing s with
  | nil => exact ⟨s, rfl, run⟩
  | cons pair rest ih =>
    obtain ⟨first, collected, run⟩ := collectAll_cons.mp run
    obtain ⟨next, start, run⟩ := ih run
    exact ⟨next, collectAll_cons.mpr ⟨first, collected, start⟩, run⟩

/-- A run of updates from the empty counter moves only forward. Over any part of it the
number of coupons, the layout, the window and the first interesting column do not go back,
and each update of the part adds at most one coupon and moves the window by at most one
column. Wherever the run has come to, the columns before the first interesting one are full. -/
theorem collectAll_moves_forward (p : Precision) (seed : UInt64) (earlier part later : List Pair)
    (last : Sketch) (run : (new p seed).collectAll (earlier ++ part ++ later) = .ok last) :
    ∃ s after, (new p seed).collectAll earlier = .ok s ∧ s.collectAll part = .ok after ∧
      after.collectAll later = .ok last ∧
      s.numCoupons ≤ after.numCoupons ∧ after.numCoupons ≤ s.numCoupons + part.length ∧
      s.flavor.code ≤ after.flavor.code ∧
      s.offset ≤ after.offset ∧ after.offset ≤ s.offset + part.length ∧
      s.firstInteresting ≤ after.firstInteresting ∧
      ∃ m, after.bitMatrix? = .ok m ∧ m.size = p.rows ∧
        ∀ row < p.rows, ∀ column < after.firstInteresting, m.isSet row column = true := by
  obtain ⟨after, start, ending⟩ := collectAll_append run
  obtain ⟨s, before, between⟩ := collectAll_append start
  have fresh := new_settled p seed
  obtain ⟨_, valid, truthful⟩ := collectAll_advances fresh.toValid (new_truthful p seed) before
  obtain ⟨advances, afterValid, afterTruthful⟩ := collectAll_advances valid truthful between
  have precision : after.precision = p := (fresh.collectAll_keeps start).precision
  refine ⟨s, after, before, between, ending, advances.numCoupons, advances.numCoupons_near,
    advances.flavor, advances.offset, advances.offset_near, advances.interesting,
    after.bitMatrix, afterValid.bitMatrix?_eq, ?_, ?_⟩
  · rw [afterValid.size_bitMatrix, precision]
  · rw [← precision]
    exact afterTruthful

/-- With coupon 54 of 16 rows the window moves to column 1, and column 0, which is full, is
passed over from then on. -/
theorem collectAll_moves_forward_first_move : ∃ s after m,
    (new Precision.least 9001).collectAll (columnCoupons 53) = .ok s ∧
    s.collectAll [Pair.pack 5 3] = .ok after ∧ after.bitMatrix? = .ok m ∧
    after.numCoupons ≤ s.numCoupons + 1 ∧ s.flavor.code ≤ after.flavor.code ∧
    (s.offset, s.firstInteresting) = (0, 0) ∧ (after.offset, after.firstInteresting) = (1, 1) ∧
    ∀ row < 16, m.isSet row 0 = true := by
  have runs : ((new Precision.least 9001).collectAll
      (columnCoupons 53 ++ [Pair.pack 5 3] ++ [Pair.pack 6 3, Pair.pack 6 3])).toOption.map
        numCoupons = some 55 := by decide +kernel
  have shape : ((new Precision.least 9001).collectAll (columnCoupons 53)).toOption.map (fun s =>
      ((s.offset, s.firstInteresting), (s.collectAll [Pair.pack 5 3]).toOption.map fun after =>
        (after.offset, after.firstInteresting))) = some ((0, 0), some (1, 1)) := by decide +kernel
  obtain ⟨last, run, _⟩ := exists_ok_of_map runs
  obtain ⟨s, after, before, step, _, _, count, flavor, _, _, _, m, matrix, _, full⟩ :=
    collectAll_moves_forward _ 9001 _ _ _ last run
  simp only [before, step, Except.toOption, Option.map_some, Option.some.injEq, Prod.mk.injEq] at shape
  obtain ⟨start, offset, first⟩ := shape
  have passed : 0 < after.firstInteresting := first.symm ▸ Nat.one_pos
  exact ⟨s, after, m, before, step, matrix, count, flavor, Prod.ext start.1 start.2,
    Prod.ext offset first, fun row inside => full row inside 0 passed⟩

end Sketch
end DistinctCount
