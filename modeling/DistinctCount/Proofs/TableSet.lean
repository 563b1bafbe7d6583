import DistinctCount.Proofs.SlotSearch
import Mathlib.Tactic.Ring

/-! A table as a finite set. A well-formed table finds what it stores, counts it and
keeps a quarter of its slots free; every operation keeps it so and does to the
stored items what its name says. -/
namespace DistinctCount.PairTable

open Pair (vacant)

/-- The slots hold distinct items, each within reach of a search, and the count is
theirs. -/
structure Consistent (t : PairTable) : Prop where
  two_le : 2 ≤ t.lgSize
  lgSize_lt : t.lgSize < t.validBits
  validBits_le : t.validBits ≤ 32
  size : t.slots.size = 2 ^ t.lgSize
  numItems : t.numItems = t.items.length
  distinct : t.items.Nodup
  narrow : ∀ item ∈ t.items, item.toNat < 2 ^ t.validBits
  chained : Chained (t.validBits - t.lgSize) t.slots

/-- A consistent table with at most three quarters of its slots in use. -/
structure WellFormed (t : PairTable) : Prop extends Consistent t where
  lgSize_le : t.lgSize ≤ 30
  load : 4 * t.numItems ≤ 3 * 2 ^ t.lgSize

/-- The number of items up to which a table can grow. -/
def capacity (validBits : Nat) : Nat := 3 * 2 ^ (min (validBits - 1) 30 - 2)

variable {t : PairTable} {item : Pair}

theorem four_mul_load {lgSize : Nat} (two_le : 2 ≤ lgSize) :
    4 * (3 * 2 ^ (lgSize - 2)) = 3 * 2 ^ lgSize := by
  obtain ⟨more, rfl⟩ := Nat.exists_eq_add_of_le' two_le
  rw [Nat.add_sub_cancel, Nat.pow_add]
  omega

theorem four_mul_capacity {validBits : Nat} (three_le : 3 ≤ validBits) :
    4 * capacity validBits = 3 * 2 ^ min (validBits - 1) 30 :=
  four_mul_load (by omega)

theorem WellFormed.numItems_le (wf : t.WellFormed) : t.numItems ≤ capacity t.validBits := by
  have two_le := wf.two_le
  have less := wf.lgSize_lt
  have lgSize_le := wf.lgSize_le
  have load := wf.load
  have slots : 2 ^ t.lgSize ≤ 2 ^ min (t.validBits - 1) 30 :=
    Nat.pow_le_pow_right (by decide) (by omega)
  have limit := @four_mul_capacity t.validBits (by omega)
  omega

theorem items_eq_stored (t : PairTable) : t.items = stored t.slots := rfl

theorem real_of_mem (member : item ∈ t.items) : item ≠ vacant := (mem_stored.mp member).1

theorem home_lt {validBits lgSize : Nat} (narrow : item.toNat < 2 ^ validBits)
    (less : lgSize < validBits) : home (validBits - lgSize) item < 2 ^ lgSize := by
  rw [home, Nat.shiftRight_eq_div_pow]
  apply Nat.div_lt_of_lt_mul
  rwa [← Nat.pow_add, Nat.sub_add_cancel less.le]

theorem WellFormed.room (wf : t.WellFormed) : (stored t.slots).length < t.slots.size := by
  have load := wf.load
  have positive := Nat.two_pow_pos t.lgSize
  rw [wf.numItems, items_eq_stored] at load
  rw [wf.size]
  omega

theorem placeAll_spec {shift : Nat} {items : List Pair} {slots : Array Pair}
    (chained : Chained shift slots) (distinct : (items ++ stored slots).Nodup)
    (real : ∀ item ∈ items, item ≠ vacant) (starts : ∀ item ∈ items, home shift item < slots.size)
    (room : items.length + (stored slots).length ≤ slots.size) :
    ∃ after, placeAll shift items slots = .ok after ∧ after.size = slots.size ∧
      (stored after).Perm (items ++ stored slots) ∧ Chained shift after := by
  induction items generalizing slots with
  | nil => exact ⟨slots, rfl, rfl, List.Perm.refl _, chained⟩
  | cons item rest ih =>
    simp only [List.length_cons] at room
    have realItem := real item (by simp)
    have start := starts item (by simp)
    have absent : item ∉ stored slots := fun member =>
      (List.nodup_cons.mp distinct).1 (List.mem_append_right rest member)
    obtain ⟨index, first⟩ := exists_firstFree start (by omega)
    have placed := stored_place first.inside first.free realItem
    have order : (rest ++ stored (slots.setIfInBounds index item)).Perm
        (item :: rest ++ stored slots) := (placed.append_left rest).trans List.perm_middle
    obtain ⟨after, run, size, perm, chainedAfter⟩ := @ih (slots.setIfInBounds index item)
      (chained.place first realItem) (order.nodup_iff.mpr distinct)
      (fun other member => real other (by simp [member]))
      (fun other member => by simpa using starts other (by simp [member]))
      (by rw [placed.length_eq, List.length_cons, Array.size_setIfInBounds]; omega)
    refine ⟨after, ?_, by simpa using size, perm.trans order, chainedAfter⟩
    simp only [placeAll, first.place absent start, run]

theorem search_found {slots : Array Pair} {steps index found : Nat}
    (run : search slots item steps index = .ok found) :
    found < slots.size ∧ (slotAt slots found = item ∨ slotAt slots found = vacant) := by
  induction steps generalizing index with
  | zero => contradiction
  | succ steps ih =>
    rw [search] at run
    split at run
    · rename_i inside
      split at run
      · rename_i here
        cases run
        exact ⟨inside, slotAt_of_lt inside ▸ here⟩
      · exact ih run
    · contradiction

/-- A search that starts inside the slots can only fail by going round for ever. -/
theorem search_error {slots : Array Pair} {steps index : Nat} {fault : Fault}
    (start : index < slots.size) (run : search slots item steps index = .error fault) :
    fault = .endlessProbe := by
  induction steps generalizing index with
  | zero =>
    cases run
    rfl
  | succ steps ih =>
    rw [search, dif_pos start] at run
    split at run
    · contradiction
    · exact ih (Nat.mod_lt _ (by omega)) run

theorem placeAll_error {shift : Nat} {items : List Pair} {slots : Array Pair} {fault : Fault}
    (starts : ∀ item ∈ items, home shift item < slots.size)
    (run : placeAll shift items slots = .error fault) : fault = .endlessProbe := by
  induction items generalizing slots with
  | nil => contradiction
  | cons item rest ih =>
    simp only [placeAll, place] at run
    cases located : locate slots shift item with
    | error fault =>
      rw [located] at run
      cases run
      exact search_error (starts item (by simp)) located
    | ok index =>
      rw [located] at run
      exact ih (fun other member => by simpa using starts other (by simp [member])) run

/-- Distinct items can all be placed only where there are slots for them. -/
theorem placeAll_room {shift : Nat} {items : List Pair} {slots after : Array Pair}
    (distinct : (items ++ stored slots).Nodup) (real : ∀ item ∈ items, item ≠ vacant)
    (run : placeAll shift items slots = .ok after) :
    items.length + (stored slots).length ≤ slots.size := by
  induction items generalizing slots with
  | nil =>
    have filtered : (stored slots).length ≤ slots.toList.length := List.length_filter_le _ _
    simpa using filtered
  | cons item rest ih =>
    have absent : item ∉ stored slots := fun member =>
      (List.nodup_cons.mp distinct).1 (List.mem_append_right rest member)
    have realItem := real item (by simp)
    simp only [placeAll, place] at run
    cases located : locate slots shift item with
    | error fault =>
      rw [located] at run
      contradiction
    | ok index =>
      rw [located] at run
      obtain ⟨inside, here | free⟩ := search_found located
      · exact (absent (mem_stored.mpr ⟨realItem, index, inside, here⟩)).elim
      · have placed := stored_place inside free realItem
        have order : (rest ++ stored (slots.setIfInBounds index item)).Perm
            (item :: rest ++ stored slots) := (placed.append_left rest).trans List.perm_middle
        have later := ih (order.nodup_iff.mpr distinct)
          (fun other member => real other (by simp [member])) run
        rw [placed.length_eq, Array.size_setIfInBounds, List.length_cons] at later
        rw [List.length_cons]
        omega

theorem slotAt_vacantSlots (lgSize index : Nat) : slotAt (vacantSlots lgSize) index = vacant := by
  simp only [slotAt, vacantSlots, Array.getD_eq_getD_getElem?, Array.getElem?_replicate]
  split <;> rfl

theorem chained_vacantSlots (shift lgSize : Nat) : Chained shift (vacantSlots lgSize) := by
  intro index _ taken
  exact (taken (slotAt_vacantSlots lgSize index)).elim

theorem stored_vacantSlots (lgSize : Nat) : stored (vacantSlots lgSize) = [] := by
  simp [stored, vacantSlots]

theorem fill_spec {validBits lgSize : Nat} {items : List Pair} (distinct : items.Nodup)
    (real : ∀ item ∈ items, item ≠ vacant) (narrow : ∀ item ∈ items, item.toNat < 2 ^ validBits)
    (two_le : 2 ≤ lgSize) (less : lgSize < validBits) (validBits_le : validBits ≤ 32)
    (room : items.length ≤ 2 ^ lgSize) :
    ∃ slots, placeAll (validBits - lgSize) items (vacantSlots lgSize) = .ok slots ∧
      (stored slots).Perm items ∧ Consistent ⟨lgSize, validBits, items.length, slots⟩ := by
  have size : (vacantSlots lgSize).size = 2 ^ lgSize := by simp [vacantSlots]
  obtain ⟨slots, run, sizeAfter, perm, chained⟩ :=
    placeAll_spec (chained_vacantSlots (validBits - lgSize) lgSize)
      (by simpa [stored_vacantSlots] using distinct) real
      (fun item member => size ▸ home_lt (narrow item member) less)
      (by simpa [stored_vacantSlots, size] using room)
  rw [stored_vacantSlots, List.append_nil] at perm
  exact ⟨slots, run, perm, two_le, less, validBits_le, sizeAfter.trans size, perm.length_eq.symm,
    perm.nodup_iff.mpr distinct, fun item member => narrow item (perm.mem_iff.mp member), chained⟩

theorem resize_spec (consistent : t.Consistent) {lgSize : Nat} (two_le : 2 ≤ lgSize)
    (less : lgSize < t.validBits) (room : t.numItems ≤ 2 ^ lgSize) :
    ∃ slots, t.resize lgSize = .ok ⟨lgSize, t.validBits, t.numItems, slots⟩ ∧
      (stored slots).Perm t.items ∧ Consistent ⟨lgSize, t.validBits, t.numItems, slots⟩ := by
  have count := consistent.numItems
  obtain ⟨slots, run, perm, filled⟩ := fill_spec consistent.distinct (fun _ => real_of_mem)
    consistent.narrow two_le less consistent.validBits_le (by omega)
  refine ⟨slots, ?_, perm, by rwa [count]⟩
  rw [resize, if_neg (by omega), run]

theorem isCrowded_iff (lgSize_le : t.lgSize ≤ 30) (few : 4 * t.numItems < 2 ^ 32) :
    t.isCrowded = true ↔ 3 * 2 ^ t.lgSize < 4 * t.numItems := by
  have slots : 2 ^ t.lgSize ≤ 2 ^ 30 := Nat.pow_le_pow_right (by decide) lgSize_le
  rw [isCrowded, decide_eq_true_eq, Nat.mod_eq_of_lt few, Nat.mod_eq_of_lt (by omega)]

theorem grow_settled (settled : t.isCrowded = false) (room : Nat) : grow room t = .ok t := by
  cases room <;> simp [grow, settled]

/-- A table with one item too many has its slots doubled once, below 2^30 slots. -/
theorem grow_doubled (consistent : t.Consistent) (lgSize_lt : t.lgSize < 30)
    (nearly : 4 * t.numItems ≤ 3 * 2 ^ t.lgSize + 4) (large : 3 * 2 ^ t.lgSize < 4 * t.numItems)
    (wide : t.lgSize + 1 < t.validBits) (room : Nat) : ∃ after, grow (room + 1) t = .ok after ∧
      after.WellFormed ∧ after.validBits = t.validBits ∧ after.items.Perm t.items := by
  have bound : 2 ^ t.lgSize ≤ 2 ^ 30 := Nat.pow_le_pow_right (by decide) lgSize_lt.le
  have four : 2 ^ 2 ≤ 2 ^ t.lgSize := Nat.pow_le_pow_right (by decide) consistent.two_le
  have power : 2 ^ (t.lgSize + 1) = 2 * 2 ^ t.lgSize := Nat.pow_succ'
  obtain ⟨slots, resized, perm, doubled⟩ :=
    resize_spec consistent (by have := consistent.two_le; omega) wide (by omega)
  have enough : 4 * t.numItems ≤ 3 * 2 ^ (t.lgSize + 1) := by omega
  have settled : isCrowded ⟨t.lgSize + 1, t.validBits, t.numItems, slots⟩ = false := by
    rw [Bool.eq_false_iff, ne_eq, isCrowded_iff (by simp only; omega) (by simp only; omega)]
    exact Nat.not_lt.mpr enough
  refine ⟨⟨t.lgSize + 1, t.validBits, t.numItems, slots⟩, ?_, ⟨doubled, lgSize_lt, enough⟩, rfl, perm⟩
  rw [grow, if_pos ((isCrowded_iff lgSize_lt.le (by omega)).mpr large), resized]
  exact grow_settled settled room

/-- From 2^30 slots no size is large enough. -/
theorem grow_last (consistent : t.Consistent) (last : t.lgSize = 30)
    (nearly : 4 * t.numItems ≤ 3 * 2 ^ t.lgSize + 4) (large : 3 * 2 ^ t.lgSize < 4 * t.numItems)
    (wide : t.lgSize + 1 < t.validBits) (room : Nat) : ∃ fault, grow (room + 1) t = .error fault := by
  have value : 2 ^ t.lgSize = 2 ^ 30 := congrArg _ last
  have power : 2 ^ (t.lgSize + 1) = 2 * 2 ^ t.lgSize := Nat.pow_succ'
  obtain ⟨slots, resized, _, _⟩ := resize_spec consistent (by omega) wide (by omega)
  -- Three times 2^31 wraps around in 32 bits, so that the table seems crowded still.
  have still : isCrowded ⟨t.lgSize + 1, t.validBits, t.numItems, slots⟩ = true := by
    simp only [isCrowded, decide_eq_true_eq, power]
    omega
  have full : resize ⟨t.lgSize + 1, t.validBits, t.numItems, slots⟩ (t.lgSize + 1 + 1) =
      .error (.tableResize t.validBits (t.lgSize + 1 + 1)) := by
    rw [resize, if_pos (Or.inr (by have := consistent.validBits_le; simp only; omega))]
  refine ⟨.tableResize t.validBits (t.lgSize + 1 + 1), ?_⟩
  rw [grow, if_pos ((isCrowded_iff last.le (by omega)).mpr large), resized]
  cases room <;> simp [grow, still, full]

/-- A table with one item too many grows to twice its slots, or to none. -/
theorem grow_spec (consistent : t.Consistent) (lgSize_le : t.lgSize ≤ 30)
    (nearly : 4 * t.numItems ≤ 3 * 2 ^ t.lgSize + 4) {room : Nat} {after : PairTable}
    (grown : grow (room + 1) t = .ok after) :
    after.WellFormed ∧ after.validBits = t.validBits ∧ after.items.Perm t.items := by
  have slots : 2 ^ t.lgSize ≤ 2 ^ 30 := Nat.pow_le_pow_right (by decide) lgSize_le
  have four : 2 ^ 2 ≤ 2 ^ t.lgSize := Nat.pow_le_pow_right (by decide) consistent.two_le
  have crowded := isCrowded_iff lgSize_le (by omega)
  by_cases large : 3 * 2 ^ t.lgSize < 4 * t.numItems
  · by_cases wide : t.lgSize + 1 < t.validBits
    · rcases Nat.lt_or_eq_of_le lgSize_le with lgSize_lt | last
      · obtain ⟨doubled, run, spec⟩ := grow_doubled consistent lgSize_lt nearly large wide room
        cases run.symm.trans grown
        exact spec
      · obtain ⟨fault, run⟩ := grow_last consistent last nearly large wide room
        cases run.symm.trans grown
    · have fault : t.resize (t.lgSize + 1) = .error (.tableResize t.validBits (t.lgSize + 1)) := by
        rw [resize, if_pos (by omega)]
      simp [grow, crowded.mpr large, fault] at grown
  · have settled : t.isCrowded = false := by
      rw [Bool.eq_false_iff, ne_eq, crowded]
      exact large
    cases (grow_settled settled (room + 1)).symm.trans grown
    exact ⟨⟨consistent, lgSize_le, by omega⟩, rfl, List.Perm.refl _⟩

/-- Up to the capacity there is a size large enough. -/
theorem grow_total (consistent : t.Consistent) (lgSize_le : t.lgSize ≤ 30)
    (nearly : 4 * t.numItems ≤ 3 * 2 ^ t.lgSize + 4) (few : t.numItems ≤ capacity t.validBits)
    (room : Nat) : ∃ after, grow (room + 1) t = .ok after := by
  have slots : 2 ^ t.lgSize ≤ 2 ^ 30 := Nat.pow_le_pow_right (by decide) lgSize_le
  have four : 2 ^ 2 ≤ 2 ^ t.lgSize := Nat.pow_le_pow_right (by decide) consistent.two_le
  have two_le := consistent.two_le
  have lgSize_lt := consistent.lgSize_lt
  have crowded := isCrowded_iff lgSize_le (by omega)
  by_cases large : 3 * 2 ^ t.lgSize < 4 * t.numItems
  · have limit := @four_mul_capacity t.validBits (by omega)
    have less : t.lgSize < min (t.validBits - 1) 30 := by
      apply (Nat.pow_lt_pow_iff_right (a := 2) (by decide)).mp
      omega
    obtain ⟨after, run, _⟩ :=
      grow_doubled consistent (by omega) nearly large (by omega : t.lgSize + 1 < t.validBits) room
    exact ⟨after, run⟩
  · have settled : t.isCrowded = false := by
      rw [Bool.eq_false_iff, ne_eq, crowded]
      exact large
    exact ⟨t, grow_settled settled (room + 1)⟩

theorem insert_eq (t : PairTable) (item : Pair) : t.insert item =
    match locate t.slots (t.validBits - t.lgSize) item with
    | .error fault => .error fault
    | .ok index =>
      if slotAt t.slots index = item then .ok (t, false)
      else
        match grow (t.validBits - t.lgSize)
            ⟨t.lgSize, t.validBits, t.numItems + 1, t.slots.setIfInBounds index item⟩ with
        | .error fault => .error fault
        | .ok t => .ok (t, true) := by
  cases t
  rfl

theorem Consistent.start (consistent : t.Consistent) (narrow : item.toNat < 2 ^ t.validBits) :
    home (t.validBits - t.lgSize) item < t.slots.size :=
  consistent.size ▸ home_lt narrow consistent.lgSize_lt

theorem Consistent.locate_mem (consistent : t.Consistent) (member : item ∈ t.items) :
    ∃ index < t.slots.size, slotAt t.slots index = item ∧
      locate t.slots (t.validBits - t.lgSize) item = .ok index := by
  obtain ⟨real, index, inside, here⟩ := mem_stored.mp member
  exact ⟨index, inside, here, locate_stored consistent.chained consistent.distinct
    (consistent.start (consistent.narrow item member)) inside here real⟩

/-- An item that is there already changes nothing, not even the slots. -/
theorem insert_of_mem (wf : t.WellFormed) (member : item ∈ t.items) :
    t.insert item = .ok (t, false) := by
  obtain ⟨index, _, here, located⟩ := wf.toConsistent.locate_mem member
  rw [insert_eq, located]
  simp only [here, if_true]

theorem place_new (wf : t.WellFormed) (absent : item ∉ t.items) (real : item ≠ vacant)
    (narrow : item.toNat < 2 ^ t.validBits) : ∃ index,
      t.insert item = (match grow (t.validBits - t.lgSize)
          ⟨t.lgSize, t.validBits, t.numItems + 1, t.slots.setIfInBounds index item⟩ with
        | .error fault => .error fault
        | .ok t => .ok (t, true)) ∧
      (stored (t.slots.setIfInBounds index item)).Perm (item :: t.items) ∧
      Consistent ⟨t.lgSize, t.validBits, t.numItems + 1, t.slots.setIfInBounds index item⟩ := by
  have start := wf.toConsistent.start narrow
  obtain ⟨index, first⟩ := exists_firstFree start wf.room
  have placed := stored_place first.inside first.free real
  refine ⟨index, ?_, placed, ?_⟩
  · rw [insert_eq, first.locate absent start]
    simp only [first.free, Ne.symm real, if_false]
  · refine ⟨wf.two_le, wf.lgSize_lt, wf.validBits_le, by simpa using wf.size, ?_, ?_, ?_,
      wf.chained.place first real⟩
    · simp only [items_eq_stored, placed.length_eq, List.length_cons, wf.numItems]
    · exact placed.nodup_iff.mpr (List.nodup_cons.mpr ⟨absent, wf.distinct⟩)
    · intro other member
      rcases List.mem_cons.mp (placed.mem_iff.mp member) with rfl | before
      · exact narrow
      · exact wf.narrow other before

theorem insert_of_notMem (wf : t.WellFormed) (absent : item ∉ t.items) (real : item ≠ vacant)
    (narrow : item.toNat < 2 ^ t.validBits) {after : PairTable} {novel : Bool}
    (inserted : t.insert item = .ok (after, novel)) :
    novel = true ∧ after.WellFormed ∧ after.validBits = t.validBits ∧
      after.items.Perm (item :: t.items) := by
  obtain ⟨index, unfolded, placed, consistent⟩ := place_new wf absent real narrow
  have load := wf.load
  obtain ⟨room, steps⟩ : ∃ room, t.validBits - t.lgSize = room + 1 :=
    Nat.exists_eq_succ_of_ne_zero (by have := wf.lgSize_lt; omega)
  rw [unfolded, steps] at inserted
  split at inserted
  · contradiction
  · rename_i grownTable grown
    cases inserted
    obtain ⟨wellFormed, width, perm⟩ :=
      grow_spec consistent wf.lgSize_le (by simp only; omega) grown
    exact ⟨rfl, wellFormed, width, perm.trans placed⟩

theorem insert_total (wf : t.WellFormed) (narrow : item.toNat < 2 ^ t.validBits)
    (real : item ≠ vacant) (few : t.numItems + 1 ≤ capacity t.validBits) :
    ∃ result, t.insert item = .ok result := by
  by_cases member : item ∈ t.items
  · exact ⟨_, insert_of_mem wf member⟩
  · obtain ⟨index, unfolded, placed, consistent⟩ := place_new wf member real narrow
    have load := wf.load
    obtain ⟨room, steps⟩ : ∃ room, t.validBits - t.lgSize = room + 1 :=
      Nat.exists_eq_succ_of_ne_zero (by have := wf.lgSize_lt; omega)
    obtain ⟨after, grown⟩ := grow_total consistent wf.lgSize_le (by simp only; omega) few room
    exact ⟨(after, true), by rw [unfolded, steps, grown]⟩

/-- Halving stops in time: a table that shrinks has less than half of its new slots
in use. -/
theorem shrink_spec (wf : t.WellFormed) (room : Nat) : ∃ after, shrink room t = .ok after ∧
    after.WellFormed ∧ after.validBits = t.validBits ∧ after.items.Perm t.items := by
  induction room generalizing t with
  | zero => exact ⟨t, rfl, wf, rfl, List.Perm.refl _⟩
  | succ room ih =>
    rw [shrink]
    split
    · rename_i scarce
      obtain ⟨scarce, large⟩ := scarce
      have lgSize_lt := wf.lgSize_lt
      have lgSize_le := wf.lgSize_le
      have load := wf.load
      have power : 2 ^ t.lgSize = 2 * 2 ^ (t.lgSize - 1) := by
        conv_lhs => rw [show t.lgSize = t.lgSize - 1 + 1 by omega, Nat.pow_succ']
      have slots : 2 ^ t.lgSize ≤ 2 ^ 30 := Nat.pow_le_pow_right (by decide) lgSize_le
      have few : 4 * t.numItems < 2 ^ t.lgSize := by
        rw [isScarce, decide_eq_true_eq, Nat.mod_eq_of_lt (by omega), Nat.mod_eq_of_lt (by omega)]
          at scarce
        exact scarce
      obtain ⟨slots, resized, perm, halved⟩ := resize_spec wf.toConsistent
        (by omega : 2 ≤ t.lgSize - 1) (by omega) (by omega)
      simp only [resized]
      have wellFormed : WellFormed ⟨t.lgSize - 1, t.validBits, t.numItems, slots⟩ :=
        ⟨halved, by simp only; omega, by simp only; omega⟩
      obtain ⟨after, run, wellFormed, width, permAfter⟩ := ih wellFormed
      exact ⟨after, run, wellFormed, width, permAfter.trans perm⟩
    · exact ⟨t, rfl, wf, rfl, List.Perm.refl _⟩

theorem erase_eq (t : PairTable) (item : Pair) : t.erase item =
    match locate t.slots (t.validBits - t.lgSize) item with
    | .error fault => .error fault
    | .ok index =>
      if slotAt t.slots index = vacant then .ok (t, false)
      else
        match settle (t.validBits - t.lgSize) t.slots.size ((index + 1) % t.slots.size)
            (t.slots.setIfInBounds index vacant) with
        | .error fault => .error fault
        | .ok slots =>
          match shrink t.lgSize ⟨t.lgSize, t.validBits, t.numItems - 1, slots⟩ with
          | .error fault => .error fault
          | .ok t => .ok (t, true) := by
  cases t
  rfl

/-- An item that is not there changes nothing, not even the slots. -/
theorem erase_of_notMem (wf : t.WellFormed) (absent : item ∉ t.items)
    (narrow : item.toNat < 2 ^ t.validBits) : t.erase item = .ok (t, false) := by
  have start := wf.toConsistent.start narrow
  obtain ⟨index, first⟩ := exists_firstFree start wf.room
  rw [erase_eq, first.locate absent start]
  simp only [first.free, if_true]

theorem settle_removed (wf : t.WellFormed) {index : Nat} (inside : index < t.slots.size)
    (here : slotAt t.slots index = item) (real : item ≠ vacant) : ∃ slots,
      settle (t.validBits - t.lgSize) t.slots.size ((index + 1) % t.slots.size)
        (t.slots.setIfInBounds index vacant) = .ok slots ∧
      t.items.Perm (item :: stored slots) ∧
      WellFormed ⟨t.lgSize, t.validBits, t.numItems - 1, slots⟩ := by
  have removed := stored_remove inside here real
  have load := wf.load
  have size : (t.slots.setIfInBounds index vacant).size = t.slots.size := by simp
  have distinct : (stored (t.slots.setIfInBounds index vacant)).Nodup :=
    (List.nodup_cons.mp (removed.nodup_iff.mp wf.distinct)).2
  have starts : ∀ other ∈ stored (t.slots.setIfInBounds index vacant),
      home (t.validBits - t.lgSize) other < (t.slots.setIfInBounds index vacant).size := by
    intro other present
    rw [size]
    exact wf.toConsistent.start (wf.narrow other (removed.mem_iff.mpr (by simp [present])))
  obtain ⟨stop, settling⟩ := wf.chained.remove inside (here ▸ real) wf.room
  have insideStop := settling.insideStop
  have insideNext := settling.inside
  rw [size] at insideStop insideNext
  have enough : (index + 1) % t.slots.size ≤ stop ∧
        stop < (index + 1) % t.slots.size + t.slots.size ∨
      stop < (index + 1) % t.slots.size ∧ stop + (t.slots.setIfInBounds index vacant).size <
        (index + 1) % t.slots.size + t.slots.size := by
    rw [size]
    omega
  obtain ⟨slots, settled, sizeAfter, perm, chained⟩ := settling.settle distinct starts enough
  have less : t.numItems = (stored slots).length + 1 := by
    rw [wf.numItems, items_eq_stored, removed.length_eq, List.length_cons, perm.length_eq]
  refine ⟨slots, settled, removed.trans (perm.symm.cons item),
    ⟨wf.two_le, wf.lgSize_lt, wf.validBits_le, ?_, ?_, ?_, ?_, chained⟩, wf.lgSize_le, ?_⟩
  · exact sizeAfter.trans (size.trans wf.size)
  · simp only [items_eq_stored]
    omega
  · exact perm.nodup_iff.mpr distinct
  · intro other present
    exact wf.narrow other (removed.mem_iff.mpr (by simp [perm.mem_iff.mp present]))
  · simp only
    omega

theorem erase_of_mem (wf : t.WellFormed) (member : item ∈ t.items) : ∃ after,
    t.erase item = .ok (after, true) ∧ after.WellFormed ∧ after.validBits = t.validBits ∧
      t.items.Perm (item :: after.items) := by
  obtain ⟨index, inside, here, located⟩ := wf.toConsistent.locate_mem member
  have real := real_of_mem member
  obtain ⟨slots, settled, removed, wellFormed⟩ := settle_removed wf inside here real
  obtain ⟨after, shrunk, wellFormed, width, perm⟩ := shrink_spec wellFormed t.lgSize
  refine ⟨after, ?_, wellFormed, width, removed.trans (perm.symm.cons item)⟩
  rw [erase_eq, located]
  simp only [here, real, if_false, settled, shrunk]

theorem clear_spec (wf : t.WellFormed) :
    t.clear.WellFormed ∧ t.clear.validBits = t.validBits ∧ t.clear.items = [] := by
  have slots : t.clear.slots = vacantSlots t.lgSize := by
    simp only [clear, vacantSlots, wf.size]
  have items : t.clear.items = [] := by
    rw [items_eq_stored, slots, stored_vacantSlots]
  refine ⟨⟨⟨wf.two_le, wf.lgSize_lt, wf.validBits_le, ?_, ?_, ?_, ?_, ?_⟩, wf.lgSize_le, ?_⟩, rfl, items⟩
  · simp [clear, wf.size]
  · rw [items]
    rfl
  · rw [items]
    exact List.nodup_nil
  · simp [items]
  · rw [slots]
    exact chained_vacantSlots _ _
  · simp [clear]

theorem empty_spec (p : Precision) :
    (empty p).WellFormed ∧ (empty p).validBits = p.pairBits ∧ (empty p).items = [] := by
  have four_le := p.four_le
  have le_twentySix := p.le_twentySix
  have items : (empty p).items = [] := stored_vacantSlots 2
  refine ⟨⟨⟨le_refl 2, ?_, ?_, ?_, ?_, ?_, ?_, chained_vacantSlots _ _⟩, by simp [empty], by simp [empty]⟩,
    rfl, items⟩
  · simp only [empty, Precision.pairBits]
    omega
  · simp only [empty, Precision.pairBits]
    omega
  · simp [empty, vacantSlots]
  · rw [items]
    rfl
  · rw [items]
    exact List.nodup_nil
  · simp [items]

theorem new_spec {lgSize validBits : Nat} (made : new lgSize validBits = .ok t) :
    t.WellFormed ∧ t.validBits = validBits ∧ t.items = [] := by
  unfold new at made
  split at made
  · contradiction
  · split at made
    · contradiction
    · cases made
      have items : items ⟨lgSize, validBits, 0, vacantSlots lgSize⟩ = [] := stored_vacantSlots lgSize
      refine ⟨⟨⟨by simp only; omega, by simp only; omega, by simp only; omega, ?_, ?_, ?_, ?_,
        chained_vacantSlots _ _⟩, by simp only; omega, by simp only; omega⟩, rfl, items⟩
      · simp [vacantSlots]
      · rw [items]
        rfl
      · rw [items]
        exact List.nodup_nil
      · simp [items]

theorem insertAll_spec {items : List Pair} (wf : t.WellFormed) (distinct : (items ++ t.items).Nodup)
    (real : ∀ item ∈ items, item ≠ vacant) (narrow : ∀ item ∈ items, item.toNat < 2 ^ t.validBits)
    {after : PairTable} (run : insertAll items t = .ok after) :
    after.WellFormed ∧ after.validBits = t.validBits ∧ after.items.Perm (items ++ t.items) := by
  induction items generalizing t with
  | nil =>
    cases run
    exact ⟨wf, rfl, List.Perm.refl _⟩
  | cons item rest ih =>
    have absent : item ∉ t.items := fun member =>
      (List.nodup_cons.mp distinct).1 (List.mem_append_right rest member)
    rw [insertAll] at run
    split at run
    · contradiction
    · rename_i next novel inserted
      obtain ⟨_, wellFormed, width, perm⟩ :=
        insert_of_notMem wf absent (real item (by simp)) (narrow item (by simp)) inserted
      have order : (rest ++ next.items).Perm (item :: rest ++ t.items) :=
        (perm.append_left rest).trans List.perm_middle
      obtain ⟨wellFormed, widthAfter, permAfter⟩ := ih wellFormed (order.nodup_iff.mpr distinct)
        (fun other member => real other (by simp [member]))
        (fun other member => width ▸ narrow other (by simp [member])) run
      exact ⟨wellFormed, widthAfter.trans width, permAfter.trans order⟩

/-- Items are added without a fault as long as they fit the largest table. -/
theorem insertAll_total {items : List Pair} (wf : t.WellFormed)
    (distinct : (items ++ t.items).Nodup) (real : ∀ item ∈ items, item ≠ vacant)
    (narrow : ∀ item ∈ items, item.toNat < 2 ^ t.validBits)
    (few : t.numItems + items.length ≤ capacity t.validBits) :
    ∃ after, insertAll items t = .ok after := by
  induction items generalizing t with
  | nil => exact ⟨t, rfl⟩
  | cons item rest ih =>
    simp only [List.length_cons] at few
    have absent : item ∉ t.items := fun member =>
      (List.nodup_cons.mp distinct).1 (List.mem_append_right rest member)
    obtain ⟨⟨next, novel⟩, inserted⟩ :=
      insert_total wf (narrow item (by simp)) (real item (by simp)) (by omega)
    obtain ⟨_, wellFormed, width, perm⟩ :=
      insert_of_notMem wf absent (real item (by simp)) (narrow item (by simp)) inserted
    have order : (rest ++ next.items).Perm (item :: rest ++ t.items) :=
      (perm.append_left rest).trans List.perm_middle
    have count : next.numItems = t.numItems + 1 := by
      rw [wellFormed.numItems, perm.length_eq, List.length_cons, wf.numItems]
    obtain ⟨after, run⟩ := ih wellFormed (order.nodup_iff.mpr distinct)
      (fun other member => real other (by simp [member]))
      (fun other member => width ▸ narrow other (by simp [member])) (by rw [count, width]; omega)
    exact ⟨after, by simp only [insertAll, inserted, run]⟩

/-- The size that is found is large enough, in products of 32 bits. -/
theorem lgSizeFrom_sound {count steps lgSize found : Nat}
    (run : lgSizeFrom count steps lgSize = .ok found) :
    4 * count % 2 ^ 32 ≤ 3 * 2 ^ found % 2 ^ 32 := by
  induction steps generalizing lgSize with
  | zero => contradiction
  | succ steps ih =>
    rw [lgSizeFrom] at run
    split at run
    · exact ih run
    · cases run
      omega

theorem lgSizeFor_fits {count lgSize : Nat} (sized : lgSizeFor count = .ok lgSize)
    (lgSize_le : lgSize ≤ 30) (few : count < 2 ^ 30) : 4 * count ≤ 3 * 2 ^ lgSize := by
  have slots : 2 ^ lgSize ≤ 2 ^ 30 := Nat.pow_le_pow_right (by decide) lgSize_le
  have enough := lgSizeFrom_sound sized
  rwa [Nat.mod_eq_of_lt (by omega), Nat.mod_eq_of_lt (by omega)] at enough

/-- A size is found, and it is no larger than one that is large enough. -/
theorem lgSizeFrom_total {count steps lgSize limit : Nat} (above : lgSize ≤ limit)
    (below : limit < lgSize + steps) (enough : 4 * count % 2 ^ 32 ≤ 3 * 2 ^ limit % 2 ^ 32) :
    ∃ found, lgSizeFrom count steps lgSize = .ok found ∧ lgSize ≤ found ∧ found ≤ limit := by
  induction steps generalizing lgSize with
  | zero => omega
  | succ steps ih =>
    rw [lgSizeFrom]
    split
    · rename_i small
      have later : lgSize ≠ limit := by
        rintro rfl
        omega
      obtain ⟨found, run, least, most⟩ := @ih (lgSize + 1) (by omega) (by omega)
      exact ⟨found, run, by omega, most⟩
    · exact ⟨lgSize, rfl, le_refl _, above⟩

/-- The number of items up to which a table can be made of them at once. -/
def initialCapacity (validBits : Nat) : Nat := 3 * 2 ^ (min (validBits - 1) 26 - 2)

theorem four_mul_initialCapacity {validBits : Nat} (three_le : 3 ≤ validBits) :
    4 * initialCapacity validBits = 3 * 2 ^ min (validBits - 1) 26 :=
  four_mul_load (by omega)

theorem initialCapacity_le (validBits : Nat) : initialCapacity validBits ≤ capacity validBits :=
  Nat.mul_le_mul_left 3 (Nat.pow_le_pow_right (by decide) (by omega))

theorem initialCapacity_le_largest (validBits : Nat) : initialCapacity validBits ≤ 3 * 2 ^ 24 :=
  Nat.mul_le_mul_left 3 (Nat.pow_le_pow_right (by decide) (by omega))

theorem ofItems_spec {validBits : Nat} {items : List Pair} (distinct : items.Nodup)
    (real : ∀ item ∈ items, item ≠ vacant) (narrow : ∀ item ∈ items, item.toNat < 2 ^ validBits)
    (made : ofItems validBits items = .ok t) :
    t.WellFormed ∧ t.validBits = validBits ∧ t.items.Perm items ∧ t.lgSize ≤ 26 := by
  unfold ofItems new at made
  split at made
  · contradiction
  · rename_i lgSize sized
    split at made
    · contradiction
    · rename_i fresh freshMade
      split at freshMade
      · contradiction
      · split at freshMade
        · contradiction
        · cases freshMade
          dsimp only at made
          split at made
          · contradiction
          · rename_i placed run
            cases made
            have slots : 2 ^ lgSize ≤ 2 ^ 26 := Nat.pow_le_pow_right (by decide) (by omega)
            -- A count that wraps round to a small one asks for too small a table, which runs full.
            have room := placeAll_room (by simpa [stored_vacantSlots] using distinct) real run
            simp only [vacantSlots, Array.size_replicate] at room
            have fits := lgSizeFor_fits sized (by omega) (by omega)
            obtain ⟨other, again, perm, consistent⟩ := fill_spec distinct real narrow
              (by omega : 2 ≤ lgSize) (by omega) (by omega) (by omega)
            cases run.symm.trans again
            exact ⟨⟨consistent, by simp only; omega, fits⟩, rfl, perm, by simp only; omega⟩

theorem ofItems_total {validBits : Nat} {items : List Pair} (distinct : items.Nodup)
    (real : ∀ item ∈ items, item ≠ vacant) (narrow : ∀ item ∈ items, item.toNat < 2 ^ validBits)
    (three_le : 3 ≤ validBits) (validBits_le : validBits ≤ 32)
    (few : items.length ≤ initialCapacity validBits) :
    ∃ t, ofItems validBits items = .ok t := by
  have capacity := four_mul_initialCapacity three_le
  have largest : 2 ^ min (validBits - 1) 26 ≤ 2 ^ 26 :=
    Nat.pow_le_pow_right (by decide) (Nat.min_le_right _ _)
  obtain ⟨lgSize, sized, two_le, bound⟩ := @lgSizeFrom_total items.length 29 2
    (min (validBits - 1) 26) (by omega) (by omega) (by omega)
  have fits := lgSizeFor_fits sized (by omega) (by omega)
  obtain ⟨placed, run, _, _⟩ := fill_spec distinct real narrow two_le (by omega) validBits_le
    (by omega)
  refine ⟨⟨lgSize, validBits, items.length, placed⟩, ?_⟩
  simp only [ofItems, lgSizeFor, sized, new]
  rw [if_neg (by omega), if_neg (by omega)]
  simp only [run]

/-- A table is made of distinct items exactly up to the initial capacity. -/
theorem ofItems_ok_iff {validBits : Nat} {items : List Pair} (distinct : items.Nodup)
    (real : ∀ item ∈ items, item ≠ vacant) (narrow : ∀ item ∈ items, item.toNat < 2 ^ validBits)
    (three_le : 3 ≤ validBits) (validBits_le : validBits ≤ 32) :
    (∃ t, ofItems validBits items = .ok t) ↔ items.length ≤ initialCapacity validBits := by
  refine ⟨?_, ofItems_total distinct real narrow three_le validBits_le⟩
  rintro ⟨t, made⟩
  obtain ⟨wellFormed, width, perm, lgSize_le⟩ := ofItems_spec distinct real narrow made
  have less := wellFormed.lgSize_lt
  have load := wellFormed.load
  have count : t.numItems = items.length := wellFormed.numItems.trans perm.length_eq
  have slots : 2 ^ t.lgSize ≤ 2 ^ min (validBits - 1) 26 :=
    Nat.pow_le_pow_right (by decide) (by omega)
  have capacity := four_mul_initialCapacity three_le
  omega

theorem lgSizeFrom_error {count steps lgSize : Nat} {fault : Fault}
    (run : lgSizeFrom count steps lgSize = .error fault) : fault = .endlessProbe := by
  induction steps generalizing lgSize with
  | zero =>
    cases run
    rfl
  | succ steps ih =>
    rw [lgSizeFrom] at run
    split at run
    · exact ih run
    · contradiction

/-- The faults that the limits of a new table lead to. -/
def limits : Fault → Bool
  | .tableSize _ | .itemWidth _ _ | .endlessProbe => true
  | _ => false

/-- No item is placed outside the slots. -/
theorem ofItems_error {validBits : Nat} {items : List Pair} {fault : Fault}
    (narrow : ∀ item ∈ items, item.toNat < 2 ^ validBits)
    (run : ofItems validBits items = .error fault) : limits fault = true := by
  unfold ofItems new at run
  split at run
  · rename_i sized
    cases run
    rw [lgSizeFrom_error sized]
    rfl
  · rename_i lgSize sized
    split at run
    · rename_i refused
      cases run
      split at refused
      · cases refused
        rfl
      · split at refused
        · cases refused
          rfl
        · contradiction
    · rename_i fresh made
      split at made
      · contradiction
      · split at made
        · contradiction
        · cases made
          dsimp only at run
          split at run
          · rename_i stuck
            cases run
            have starts : ∀ item ∈ items,
                home (validBits - lgSize) item < (vacantSlots lgSize).size := by
              intro item member
              rw [vacantSlots, Array.size_replicate]
              exact home_lt (narrow item member) (by omega)
            rw [placeAll_error starts stuck]
            rfl
          · contradiction

end DistinctCount.PairTable
