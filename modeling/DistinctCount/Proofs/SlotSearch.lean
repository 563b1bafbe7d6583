import DistinctCount.PairTable
import Mathlib.Data.List.Perm.Basic
import Mathlib.Tactic.ByContra

/-! Linear probing over a ring of slots. A table is searchable when no search for a
stored item passes a free slot on the way from the item's first slot. Placing an
item keeps this, and so does removing one once the run behind it has settled. -/
namespace DistinctCount.PairTable

open Pair (vacant)

/-- Going round from `first`, `index` is met before `last`. -/
def Between (first index last : Nat) : Prop :=
  first ≤ last ∧ first ≤ index ∧ index < last ∨ last < first ∧ (first ≤ index ∨ index < last)

section Ring

variable {size first index other last stop : Nat}

theorem next_index (inside : index < size) :
    (index + 1) % size = if index + 1 = size then 0 else index + 1 := by
  split
  · rename_i full
    rw [full, Nat.mod_self]
  · exact Nat.mod_eq_of_lt (by omega)

/-- Starting one slot later leaves out the first slot. -/
theorem between_next (inside : index < size) (insideOther : other < size) (insideLast : last < size)
    (apart : index ≠ last) :
    Between ((index + 1) % size) other last ↔ other ≠ index ∧ Between index other last := by
  rw [next_index inside]
  unfold Between
  split <;> omega

/-- Ending one slot later takes in the last slot, unless this goes all the way round. -/
theorem between_to_next (inside : index < size) (insideFirst : first < size)
    (insideOther : other < size) (short : (index + 1) % size ≠ first) :
    Between first other ((index + 1) % size) ↔ other = index ∨ Between first other index := by
  rw [next_index inside] at short ⊢
  unfold Between
  split at short <;> split <;> omega

/-- A way that has not met `stop` ends before it. -/
theorem Between.ends_before (met : Between first index last) (missed : ¬ Between first stop last)
    (apart : last ≠ stop) : Between index last stop := by
  unfold Between at met missed ⊢
  omega

end Ring

def stored (slots : Array Pair) : List Pair := slots.toList.filter (· ≠ vacant)

def home (shift : Nat) (item : Pair) : Nat := item.toNat >>> shift

def slotAt (slots : Array Pair) (index : Nat) : Pair := slots.getD index vacant

/-- No search for a stored item meets a free slot before the item. -/
def Chained (shift : Nat) (slots : Array Pair) : Prop :=
  ∀ index < slots.size, slotAt slots index ≠ vacant → ∀ between < slots.size,
    Between (home shift (slotAt slots index)) between index → slotAt slots between ≠ vacant

variable {slots : Array Pair} {item : Pair} {shift index : Nat}

theorem slotAt_of_lt (inside : index < slots.size) : slotAt slots index = slots[index] := by
  simp [slotAt, inside]

theorem slotAt_set (inside : index < slots.size) (other : Nat) :
    slotAt (slots.setIfInBounds index item) other =
      if other = index then item else slotAt slots other := by
  by_cases here : other = index
  · simp [slotAt, here, inside]
  · simp [slotAt, here, Array.getElem?_setIfInBounds_ne (Ne.symm here)]

theorem mem_stored : item ∈ stored slots ↔
    item ≠ vacant ∧ ∃ index < slots.size, slotAt slots index = item := by
  simp only [stored, List.mem_filter, Array.mem_toList_iff, decide_eq_true_eq, and_comm (b := _ ≠ _),
    Array.mem_iff_getElem]
  apply and_congr_right
  intro _
  constructor
  · rintro ⟨index, inside, rfl⟩
    exact ⟨index, inside, slotAt_of_lt inside⟩
  · rintro ⟨index, inside, same⟩
    exact ⟨index, inside, (slotAt_of_lt inside).symm.trans same⟩

/-- Distinct items stand in distinct slots. -/
theorem index_unique (distinct : (stored slots).Nodup) {a b : Nat} (insideA : a < slots.size)
    (insideB : b < slots.size) (same : slotAt slots a = slotAt slots b)
    (taken : slotAt slots a ≠ vacant) : a = b := by
  have pairwise := List.pairwise_iff_getElem.mp (List.pairwise_filter.mp distinct)
  rw [slotAt_of_lt insideA] at same taken
  rw [slotAt_of_lt insideB] at same
  have apart {i j : Nat} (hi : i < slots.size) (hj : j < slots.size) (less : i < j)
      (same : slots[i] = slots[j]) (taken : slots[i] ≠ vacant) : False := by
    have different := pairwise i j (by simpa using hi) (by simpa using hj) less
    simp only [Array.getElem_toList, decide_eq_true_eq] at different
    exact different taken (same ▸ taken) same
  rcases Nat.lt_trichotomy a b with less | equal | greater
  · exact (apart insideA insideB less same taken).elim
  · exact equal
  · exact (apart insideB insideA greater same.symm (same ▸ taken)).elim

/-- What the other slots hold does not depend on the slot at `index`. -/
theorem stored_others (inside : index < slots.size) : ∃ others : List Pair, ∀ item,
    (stored (slots.setIfInBounds index item)).Perm ([item].filter (· ≠ vacant) ++ others) := by
  refine ⟨(slots.toList.take index ++ slots.toList.drop (index + 1)).filter (· ≠ vacant), ?_⟩
  intro item
  have changed : (slots.setIfInBounds index item).toList =
      slots.toList.take index ++ item :: slots.toList.drop (index + 1) := by
    rw [Array.toList_setIfInBounds, List.set_eq_take_append_cons_drop, if_pos (by simpa using inside)]
  rw [stored, changed, ← List.filter_append]
  exact List.perm_middle.filter _

theorem set_same (inside : index < slots.size) (same : slotAt slots index = item) :
    slots.setIfInBounds index item = slots := by
  apply Array.ext (by simp)
  intro other _ bound
  by_cases here : other = index
  · subst here
    simpa [slotAt_of_lt bound] using same.symm
  · simp [Array.getElem_setIfInBounds_ne bound (Ne.symm here)]

theorem stored_place (inside : index < slots.size) (free : slotAt slots index = vacant)
    (real : item ≠ vacant) :
    (stored (slots.setIfInBounds index item)).Perm (item :: stored slots) := by
  obtain ⟨others, spec⟩ := stored_others inside
  have before := spec vacant
  rw [set_same inside free] at before
  have after := spec item
  simp only [real, ne_eq, not_false_eq_true, decide_true, List.filter_cons_of_pos,
    List.filter_nil, List.singleton_append] at after
  simp only [ne_eq, not_true_eq_false, decide_false, Bool.false_eq_true, not_false_eq_true,
    List.filter_cons_of_neg, List.filter_nil, List.nil_append] at before
  exact after.trans (before.symm.cons item)

theorem stored_remove (inside : index < slots.size) (here : slotAt slots index = item)
    (real : item ≠ vacant) :
    (stored slots).Perm (item :: stored (slots.setIfInBounds index vacant)) := by
  have again : (stored ((slots.setIfInBounds index vacant).setIfInBounds index item)).Perm
      (item :: stored (slots.setIfInBounds index vacant)) :=
    stored_place (by simpa using inside) (by simp [slotAt_set inside]) real
  rwa [Array.setIfInBounds_setIfInBounds, set_same inside here] at again

/-- A search ends at a slot that holds the item or nothing and that no such slot
precedes. -/
theorem search_eq {steps last : Nat} (insideLast : last < slots.size) (inside : index < slots.size)
    (enough : index ≤ last ∧ last < index + steps ∨
      last < index ∧ last + slots.size < index + steps)
    (found : slotAt slots last = item ∨ slotAt slots last = vacant)
    (before : ∀ between < slots.size, Between index between last →
      slotAt slots between ≠ item ∧ slotAt slots between ≠ vacant) :
    search slots item steps index = .ok last := by
  induction steps generalizing index with
  | zero => omega
  | succ steps ih =>
    rw [search, dif_pos inside, ← slotAt_of_lt inside]
    by_cases here : index = last
    · rw [if_pos (here ▸ found), here]
    · obtain ⟨notItem, notVacant⟩ := before index inside (by unfold Between; omega)
      rw [if_neg (not_or.mpr ⟨notItem, notVacant⟩)]
      apply ih (Nat.mod_lt _ (by omega)) (by rw [next_index inside]; split <;> omega)
      intro between bound met
      exact before between bound ((between_next inside bound insideLast here).mp met).2

/-- Some slot at or before a free one is the first free one. -/
theorem exists_first_free (slots : Array Pair) {first last : Nat} (insideFirst : first < slots.size)
    (insideLast : last < slots.size) (free : slotAt slots last = vacant) :
    ∃ index < slots.size, slotAt slots index = vacant ∧
      (index = last ∨ Between first index last) ∧
      ∀ between < slots.size, Between first between index → slotAt slots between ≠ vacant := by
  -- the induction is on the number of slots from `first` up to `last`
  generalize distance : (if first ≤ last then last - first else last + slots.size - first) = steps
  induction steps generalizing first with
  | zero =>
    refine ⟨last, insideLast, free, Or.inl rfl, ?_⟩
    intro between _ met
    unfold Between at met
    split at distance <;> omega
  | succ steps ih =>
    by_cases here : slotAt slots first = vacant
    · refine ⟨first, insideFirst, here, ?_, ?_⟩
      · right
        unfold Between
        split at distance <;> omega
      · intro between _ met
        unfold Between at met
        omega
    · have apart : first ≠ last := fun same => here (same ▸ free)
      obtain ⟨index, inside, freeIndex, placed, before⟩ :=
        @ih ((first + 1) % slots.size) (Nat.mod_lt _ (by omega)) (by
          rw [next_index insideFirst]
          split at distance <;> split <;> split <;> omega)
      refine ⟨index, inside, freeIndex, ?_, ?_⟩
      · exact placed.imp_right fun met => ((between_next insideFirst inside insideLast apart).mp met).2
      · intro between bound met
        by_cases same : between = first
        · rwa [same]
        · have later : first ≠ index := fun same => here (same ▸ freeIndex)
          exact before between bound ((between_next insideFirst bound inside later).mpr ⟨same, met⟩)

/-- As many steps as there are slots reach every slot. -/
theorem locate_eq (start : home shift item < slots.size) (inside : index < slots.size)
    (found : slotAt slots index = item ∨ slotAt slots index = vacant)
    (before : ∀ between < slots.size, Between (home shift item) between index →
      slotAt slots between ≠ item ∧ slotAt slots between ≠ vacant) :
    locate slots shift item = .ok index := by
  have enough : home shift item ≤ index ∧ index < home shift item + slots.size ∨
      index < home shift item ∧ index + slots.size < home shift item + slots.size := by omega
  exact search_eq inside start enough found before

theorem locate_stored (chained : Chained shift slots) (distinct : (stored slots).Nodup)
    (start : home shift item < slots.size) (inside : index < slots.size)
    (here : slotAt slots index = item) (real : item ≠ vacant) :
    locate slots shift item = .ok index := by
  apply locate_eq start inside (Or.inl here)
  intro between bound met
  have taken := chained index inside (here ▸ real) between bound (here ▸ met)
  refine ⟨fun same => ?_, taken⟩
  have equal := index_unique distinct bound inside (same.trans here.symm) taken
  unfold Between at met
  omega

structure FirstFree (shift : Nat) (slots : Array Pair) (item : Pair) (index : Nat) : Prop where
  inside : index < slots.size
  free : slotAt slots index = vacant
  before : ∀ between < slots.size, Between (home shift item) between index →
    slotAt slots between ≠ vacant

theorem FirstFree.locate (first : FirstFree shift slots item index) (absent : item ∉ stored slots)
    (start : home shift item < slots.size) : locate slots shift item = .ok index := by
  apply locate_eq start first.inside (Or.inr first.free)
  intro between bound met
  have taken := first.before between bound met
  refine ⟨fun same => absent ?_, taken⟩
  exact mem_stored.mpr ⟨same ▸ taken, between, bound, same⟩

theorem FirstFree.place (first : FirstFree shift slots item index) (absent : item ∉ stored slots)
    (start : home shift item < slots.size) :
    place shift slots item = .ok (slots.setIfInBounds index item) := by
  rw [PairTable.place, first.locate absent start]

theorem exists_free (room : (stored slots).length < slots.size) :
    ∃ index < slots.size, slotAt slots index = vacant := by
  have short : (slots.toList.filter (· ≠ vacant)).length < slots.toList.length := by
    simpa [stored] using room
  obtain ⟨slot, member, free⟩ := List.length_filter_lt_length_iff_exists.mp short
  obtain ⟨index, inside, same⟩ := List.mem_iff_getElem.mp member
  have bound : index < slots.size := by simpa using inside
  have vacantSlot : slot = vacant := by simpa using free
  refine ⟨index, bound, ?_⟩
  simpa [slotAt_of_lt bound, vacantSlot] using same

theorem exists_firstFree (start : home shift item < slots.size)
    (room : (stored slots).length < slots.size) : ∃ index, FirstFree shift slots item index := by
  obtain ⟨last, insideLast, free⟩ := exists_free room
  obtain ⟨index, inside, freeIndex, _, before⟩ := exists_first_free slots start insideLast free
  exact ⟨index, inside, freeIndex, before⟩

theorem Chained.place (chained : Chained shift slots) (first : FirstFree shift slots item index)
    (real : item ≠ vacant) : Chained shift (slots.setIfInBounds index item) := by
  intro other bound taken between boundBetween met
  simp only [Array.size_setIfInBounds] at bound boundBetween
  rw [slotAt_set first.inside] at taken met ⊢
  by_cases new : between = index
  · rwa [if_pos new]
  · rw [if_neg new]
    by_cases here : other = index
    · rw [if_pos here] at met
      exact first.before between boundBetween (here ▸ met)
    · rw [if_neg here] at taken met
      exact chained other bound taken between boundBetween met

/-- The state of a removal that freed the slot `hole` and has placed again every item
up to `index`. The slots from there up to the free slot `stop` are taken. Only items
in those may be cut off, and only by a slot between `hole` and `index`. -/
structure Settling (shift : Nat) (slots : Array Pair) (hole index stop : Nat) : Prop where
  insideHole : hole < slots.size
  inside : index < slots.size
  insideStop : stop < slots.size
  order : index = stop ∧ hole ≠ stop ∨ index ≠ hole ∧ Between hole index stop
  free : slotAt slots stop = vacant
  taken : ∀ between < slots.size, Between index between stop → slotAt slots between ≠ vacant
  chained : ∀ other < slots.size, slotAt slots other ≠ vacant → ∀ between < slots.size,
    Between (home shift (slotAt slots other)) between other →
      slotAt slots between ≠ vacant ∨ Between index other stop ∧ Between hole between index

variable {hole stop : Nat}

theorem Settling.done (settling : Settling shift slots hole stop stop) : Chained shift slots := by
  intro other bound taken between boundBetween met
  rcases settling.chained other bound taken between boundBetween met with free | ⟨pending, _⟩
  · exact free
  · unfold Between at pending
    omega

/-- The slots of a removal that is not at its end yet: the next item stands between the freed
slot and the end of the run, and the slot behind it is not the freed one. -/
theorem Settling.ahead (settling : Settling shift slots hole index stop) (pending : index ≠ stop) :
    index ≠ hole ∧ Between hole index stop ∧ slotAt slots index ≠ vacant ∧
      (index + 1) % slots.size ≠ hole := by
  have inside := settling.inside
  have insideStop := settling.insideStop
  obtain ⟨apart, order⟩ := settling.order.resolve_left fun ended => pending ended.1
  refine ⟨apart, order, settling.taken index inside (by unfold Between; omega), ?_⟩
  rw [next_index inside]
  unfold Between at order
  split <;> omega

/-- A search that passes `index` ends before the free slot at the end of the run. -/
theorem Settling.ends_before (settling : Settling shift slots hole index stop) {other : Nat}
    (bound : other < slots.size) (taken : slotAt slots other ≠ vacant)
    (met : Between (home shift (slotAt slots other)) index other) : Between index other stop := by
  by_cases passes : Between (home shift (slotAt slots other)) stop other
  · rcases settling.chained other bound taken stop settling.insideStop passes with occupied | ⟨cut, _⟩
    · exact (occupied settling.free).elim
    · exact cut
  · exact met.ends_before passes fun same => taken (same ▸ settling.free)

/-- The item at `index`, once it is taken out, goes back to its slot or to one that the removal
has passed. -/
theorem Settling.exists_target (settling : Settling shift slots hole index stop)
    (real : slotAt slots index ≠ vacant) (start : home shift (slotAt slots index) < slots.size) :
    ∃ target, FirstFree shift (slots.setIfInBounds index vacant) (slotAt slots index) target ∧
      (target = index ∨ Between hole target index) := by
  have inside := settling.inside
  have cleared (other : Nat) : slotAt (slots.setIfInBounds index vacant) other =
      if other = index then vacant else slotAt slots other := slotAt_set inside other
  obtain ⟨target, insideTarget, free, reached, before⟩ :=
    exists_first_free (slots.setIfInBounds index vacant)
      (by simpa using start) (by simpa using inside) (by rw [cleared, if_pos rfl])
  refine ⟨target, ⟨insideTarget, free, before⟩, ?_⟩
  by_cases same : target = index
  · exact Or.inl same
  · rw [cleared, if_neg same] at free
    rcases settling.chained index inside real target (by simpa using insideTarget)
      (reached.resolve_left same) with taken | ⟨_, passed⟩
    · exact (taken free).elim
    · exact Or.inr passed

/-- The slots after the item at `index` was taken out and placed at `target`. -/
def moveItem (slots : Array Pair) (index target : Nat) : Array Pair :=
  (slots.setIfInBounds index vacant).setIfInBounds target (slotAt slots index)

section Move

variable {target : Nat} (first : FirstFree shift (slots.setIfInBounds index vacant)
  (slotAt slots index) target)
include first

theorem slotAt_moveItem (inside : index < slots.size) (other : Nat) :
    slotAt (moveItem slots index target) other =
      if other = target then slotAt slots index
      else if other = index then vacant else slotAt slots other := by
  rw [moveItem, slotAt_set first.inside, slotAt_set inside]

/-- Only the items still ahead may be cut off after it, and `index` may now cut them off too. -/
theorem Settling.chained_moveItem (settling : Settling shift slots hole index stop)
    (pending : index ≠ stop) {other between : Nat} (bound : other < slots.size)
    (taken : slotAt (moveItem slots index target) other ≠ vacant) (boundBetween : between < slots.size)
    (met : Between (home shift (slotAt (moveItem slots index target) other)) between other) :
    slotAt (moveItem slots index target) between ≠ vacant ∨
      Between ((index + 1) % slots.size) other stop ∧ Between hole between ((index + 1) % slots.size) := by
  have inside := settling.inside
  obtain ⟨_, _, real, short⟩ := settling.ahead pending
  rw [slotAt_moveItem first inside] at taken met ⊢
  by_cases placed : other = target
  · rw [if_pos placed] at met
    left
    split
    · exact real
    · rw [← slotAt_set inside]
      exact first.before between (by simpa using boundBetween) (placed ▸ met)
  · rw [if_neg placed] at taken met
    have moved : other ≠ index := fun same => by simp [same] at taken
    rw [if_neg moved] at taken met
    by_cases filled : between = target
    · left
      rwa [if_pos filled]
    · rw [if_neg filled, between_next inside bound settling.insideStop pending,
        between_to_next inside settling.insideHole boundBetween short]
      by_cases freed : between = index
      · exact Or.inr ⟨⟨moved, settling.ends_before bound taken (freed ▸ met)⟩, Or.inl freed⟩
      · rw [if_neg freed]
        refine (settling.chained other bound taken between boundBetween met).imp_right ?_
        rintro ⟨cut, passed⟩
        exact ⟨⟨moved, cut⟩, Or.inr passed⟩

theorem Settling.advance (settling : Settling shift slots hole index stop) (pending : index ≠ stop)
    (passed : target = index ∨ Between hole target index) :
    Settling shift (moveItem slots index target) hole ((index + 1) % slots.size) stop := by
  have inside := settling.inside
  have insideHole := settling.insideHole
  have insideStop := settling.insideStop
  have size : (moveItem slots index target).size = slots.size := by simp [moveItem]
  obtain ⟨apart, order, real, short⟩ := settling.ahead pending
  refine ⟨size ▸ insideHole, size ▸ Nat.mod_lt _ (by omega), size ▸ insideStop, ?_, ?_, ?_, ?_⟩
  · rw [next_index inside]
    unfold Between at order ⊢
    split <;> omega
  · rw [slotAt_moveItem first inside, if_neg, if_neg (Ne.symm pending), settling.free]
    unfold Between at order passed
    omega
  · intro between bound met
    rw [size] at bound
    obtain ⟨different, met⟩ := (between_next inside bound insideStop pending).mp met
    rw [slotAt_moveItem first inside, if_neg different]
    split
    · exact real
    · exact settling.taken between bound met
  · intro other bound taken between boundBetween met
    rw [size] at bound boundBetween
    exact settling.chained_moveItem first pending bound taken boundBetween met

end Move

/-- Removing the item at `index` and placing it again moves the removal one slot on. -/
theorem Settling.step (settling : Settling shift slots hole index stop) (pending : index ≠ stop)
    (distinct : (stored slots).Nodup) (starts : ∀ item ∈ stored slots, home shift item < slots.size) :
    ∃ after, place shift (slots.setIfInBounds index vacant) (slotAt slots index) = .ok after ∧
      after.size = slots.size ∧ (stored after).Perm (stored slots) ∧
      Settling shift after hole ((index + 1) % slots.size) stop := by
  have inside := settling.inside
  obtain ⟨_, _, real, _⟩ := settling.ahead pending
  have removed := stored_remove inside rfl real
  have start : home shift (slotAt slots index) < slots.size :=
    starts _ (mem_stored.mpr ⟨real, index, inside, rfl⟩)
  have absent : slotAt slots index ∉ stored (slots.setIfInBounds index vacant) :=
    (List.nodup_cons.mp (removed.nodup_iff.mp distinct)).1
  obtain ⟨target, first, passed⟩ := settling.exists_target real start
  refine ⟨_, first.place absent (by simpa using start), by simp, ?_, settling.advance first pending passed⟩
  exact (stored_place first.inside first.free real).trans removed.symm

theorem settle_succ (steps : Nat) : settle shift (steps + 1) index slots =
    if slotAt slots index = vacant then .ok slots
    else
      match place shift (slots.setIfInBounds index vacant) (slotAt slots index) with
      | .error fault => .error fault
      | .ok slots => settle shift steps ((index + 1) % slots.size) slots := rfl

/-- Settling reaches the end of the run and leaves every item within reach. -/
theorem Settling.settle {steps : Nat} (settling : Settling shift slots hole index stop)
    (distinct : (stored slots).Nodup) (starts : ∀ item ∈ stored slots, home shift item < slots.size)
    (enough : index ≤ stop ∧ stop < index + steps ∨ stop < index ∧ stop + slots.size < index + steps) :
    ∃ after, PairTable.settle shift steps index slots = .ok after ∧ after.size = slots.size ∧
      (stored after).Perm (stored slots) ∧ Chained shift after := by
  induction steps generalizing index slots with
  | zero =>
    have inside := settling.inside
    have insideStop := settling.insideStop
    omega
  | succ steps ih =>
    by_cases finished : index = stop
    · subst finished
      rw [settle_succ, if_pos settling.free]
      exact ⟨slots, rfl, rfl, List.Perm.refl _, settling.done⟩
    · have inside := settling.inside
      have insideStop := settling.insideStop
      have taken : slotAt slots index ≠ vacant :=
        settling.taken index inside (by unfold Between; omega)
      obtain ⟨moved, placed, size, same, onward⟩ := settling.step finished distinct starts
      simp only [settle_succ, if_neg taken, placed, size]
      have nextStarts : ∀ item ∈ stored moved, home shift item < moved.size := by
        intro item member
        rw [size]
        exact starts item (same.mem_iff.mp member)
      obtain ⟨after, run, sizeAfter, perm, chained⟩ := ih onward (same.nodup_iff.mpr distinct)
        nextStarts (by rw [size, next_index inside]; split <;> omega)
      exact ⟨after, run, sizeAfter.trans size, perm.trans same, chained⟩

/-- After the item at `hole` is taken out, only the run up to the next free slot has
to settle. -/
theorem Chained.remove (chained : Chained shift slots) (inside : hole < slots.size)
    (taken : slotAt slots hole ≠ vacant) (room : (stored slots).length < slots.size) :
    ∃ stop, Settling shift (slots.setIfInBounds hole vacant) hole ((hole + 1) % slots.size) stop := by
  have cleared (other : Nat) : slotAt (slots.setIfInBounds hole vacant) other =
      if other = hole then vacant else slotAt slots other := slotAt_set inside other
  have size : (slots.setIfInBounds hole vacant).size = slots.size := by simp
  obtain ⟨last, insideLast, freeLast⟩ := exists_free room
  have apart : last ≠ hole := fun same => taken (same ▸ freeLast)
  have next := next_index inside
  have insideNext : (hole + 1) % slots.size < slots.size := Nat.mod_lt _ (by omega)
  obtain ⟨stop, insideStop, free, reached, before⟩ :=
    exists_first_free slots insideNext insideLast freeLast
  have different : stop ≠ hole := fun same => taken (same ▸ free)
  refine ⟨stop, ⟨by rwa [size], by rwa [size], by rwa [size], ?_, ?_, ?_, ?_⟩⟩
  · rw [next]
    unfold Between
    split <;> omega
  · rw [cleared, if_neg different, free]
  · intro between bound met
    rw [size] at bound
    rw [cleared, if_neg]
    · exact before between bound met
    · intro same
      rw [next] at met
      unfold Between at met
      split at met <;> omega
  · intro other bound taken between boundBetween met
    rw [size] at bound boundBetween
    rw [cleared] at taken met ⊢
    have moved : other ≠ hole := fun same => by simp [same] at taken
    rw [if_neg moved] at taken met
    have kept := chained other bound taken
    by_cases freed : between = hole
    · -- The search went on behind the hole, so it ends before the next free slot.
      have ends : Between hole other stop := (freed ▸ met).ends_before
        (fun passes => kept stop insideStop passes free) fun same => taken (same ▸ free)
      refine Or.inr ⟨(between_next inside bound insideStop different.symm).mpr ⟨moved, ends⟩, ?_⟩
      rw [freed, next]
      unfold Between
      split <;> omega
    · left
      rw [if_neg freed]
      exact kept between boundBetween met

end DistinctCount.PairTable
