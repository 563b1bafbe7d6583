import DistinctCount.Proofs.TableSet
import Mathlib.Data.Bool.AllAny
import Mathlib.Data.Finset.Card

/-! A table under any sequence of calls. However it was made and whatever is asked of it,
a table answers as the finite set of its items does, and it stays within its limits: up to
its capacity no call ends in a fault and no search goes round for ever. -/
namespace DistinctCount.PairTable

open Pair (vacant)

inductive Call where
  | insert (item : Pair)
  | erase (item : Pair)
  | clear
deriving DecidableEq, Repr

namespace Call

/-- The item of a call has no bits above `width` and does not name a free slot. -/
def Fits (width : Nat) : Call → Prop
  | .insert item | .erase item => item.toNat < 2 ^ width ∧ item ≠ vacant
  | .clear => True

instance (width : Nat) : (call : Call) → Decidable (call.Fits width)
  | .insert _ | .erase _ => inferInstanceAs (Decidable (_ ∧ _))
  | .clear => inferInstanceAs (Decidable True)

/-- What a call makes of a set, and the answer: whether an item that is added was absent,
and whether one that is removed was present. -/
def onSet (members : Finset Pair) : Call → Finset Pair × Option Bool
  | .insert item => (members ∪ {item}, some (decide (item ∉ members)))
  | .erase item => (members \ {item}, some (decide (item ∈ members)))
  | .clear => (∅, none)

def allOnSet : List Call → Finset Pair → List (Finset Pair × Option Bool)
  | [], _ => []
  | call :: rest, members => call.onSet members :: allOnSet rest (call.onSet members).1

end Call

def call (t : PairTable) : Call → Except Fault (PairTable × Option Bool)
  | .insert item =>
    match t.insert item with
    | .error fault => .error fault
    | .ok (t, novel) => .ok (t, some novel)
  | .erase item =>
    match t.erase item with
    | .error fault => .error fault
    | .ok (t, present) => .ok (t, some present)
  | .clear => .ok (t.clear, none)

def callAll : List Call → PairTable → Except Fault (List (PairTable × Option Bool))
  | [], _ => .ok []
  | call :: rest, t =>
    match t.call call with
    | .error fault => .error fault
    | .ok (next, answer) =>
      match callAll rest next with
      | .error fault => .error fault
      | .ok later => .ok ((next, answer) :: later)

/-- The ways to make a table: empty with a number of slots, empty with the fewest slots,
and from items. The number of bits of an item is six more than `lgK`. -/
inductive Origin where
  | sized (lgSize width : Nat)
  | smallest (lgK : Nat)
  | filled (lgK : Nat) (items : List Pair)

namespace Origin

def make : Origin → Except Fault PairTable
  | .sized lgSize width => new lgSize width
  | .smallest lgK => new 2 (6 + lgK)
  | .filled lgK items => ofItems (6 + lgK) items

def width : Origin → Nat
  | .sized _ width => width
  | .smallest lgK | .filled lgK _ => 6 + lgK

def members : Origin → Finset Pair
  | .sized _ _ | .smallest _ => ∅
  | .filled _ items => items.toFinset

/-- The limits within which tables are asked for. Items have to be distinct, and a table can
be made of no more than fit one of 2^26 slots. -/
def Allowed : Origin → Prop
  | .sized lgSize width => 2 ≤ lgSize ∧ lgSize ≤ 26 ∧ lgSize < width ∧ width ≤ 32
  | .smallest lgK => lgK ≤ 26
  | .filled lgK items => lgK ≤ 26 ∧ items.Nodup ∧ items.length ≤ initialCapacity (6 + lgK) ∧
      ∀ item ∈ items, item.toNat < 2 ^ (6 + lgK) ∧ item ≠ vacant

end Origin

/-- The smallest table for the pairs of a counter is the one that a new counter has. -/
theorem make_smallest (p : Precision) : (Origin.smallest p.lgK).make = .ok (empty p) := by
  have := p.le_twentySix
  rw [Origin.make, new, if_neg (by omega), if_neg (by omega)]
  rfl

/-- A table for items of `width` bits that stands for a set: it lists each member once,
counts them, and has at most three quarters of its slots in use. -/
structure Holds (t : PairTable) (width : Nat) (members : Finset Pair) : Prop where
  validBits : t.validBits = width
  distinct : t.items.Nodup
  listed : ∀ item, item ∈ t.items ↔ item ∈ members
  count : t.numItems = members.card
  load : 4 * t.numItems ≤ 3 * 2 ^ t.lgSize
  two_le : 2 ≤ t.lgSize
  lgSize_lt : t.lgSize < width

/-- What every call keeps: besides the items, the searches that find them. -/
structure Keeps (t : PairTable) (width : Nat) (members : Finset Pair) : Prop where
  wellFormed : t.WellFormed
  width : t.validBits = width
  items : t.items.toFinset = members

variable {t : PairTable} {width : Nat} {members : Finset Pair}

theorem Keeps.mem_iff (keeps : t.Keeps width members) (item : Pair) :
    item ∈ t.items ↔ item ∈ members := by
  rw [← keeps.items, List.mem_toFinset]

theorem Keeps.numItems (keeps : t.Keeps width members) : t.numItems = members.card := by
  rw [keeps.wellFormed.numItems, ← keeps.items,
    List.toFinset_card_of_nodup keeps.wellFormed.distinct]

theorem Keeps.holds (keeps : t.Keeps width members) : t.Holds width members :=
  ⟨keeps.width, keeps.wellFormed.distinct, keeps.mem_iff, keeps.numItems, keeps.wellFormed.load,
    keeps.wellFormed.two_le, keeps.width ▸ keeps.wellFormed.lgSize_lt⟩

theorem Keeps.inserted {item : Pair} {after : PairTable} {novel : Bool} (keeps : t.Keeps width members)
    (narrow : item.toNat < 2 ^ width) (real : item ≠ vacant)
    (run : t.insert item = .ok (after, novel)) :
    novel = decide (item ∉ members) ∧ after.Keeps width (members ∪ {item}) := by
  have wellFormed := keeps.wellFormed
  by_cases member : item ∈ members
  · cases (insert_of_mem wellFormed ((keeps.mem_iff item).mpr member)).symm.trans run
    refine ⟨by simp [member], ?_⟩
    rwa [Finset.union_eq_left.mpr (Finset.singleton_subset_iff.mpr member)]
  · have absent : item ∉ t.items := mt (keeps.mem_iff item).mp member
    obtain ⟨rfl, formed, sameWidth, perm⟩ :=
      insert_of_notMem wellFormed absent real (by rwa [keeps.width]) run
    refine ⟨by simp [member], formed, sameWidth.trans keeps.width, ?_⟩
    rw [List.toFinset_eq_of_perm _ _ perm, List.toFinset_cons, keeps.items, Finset.union_singleton]

theorem Keeps.insert {item : Pair} (keeps : t.Keeps width members) (narrow : item.toNat < 2 ^ width)
    (real : item ≠ vacant) (room : (members ∪ {item}).card ≤ capacity width) :
    ∃ after, t.insert item = .ok (after, decide (item ∉ members)) ∧
      after.Keeps width (members ∪ {item}) := by
  have wellFormed := keeps.wellFormed
  obtain ⟨⟨after, novel⟩, run⟩ : ∃ result, t.insert item = .ok result := by
    -- A full table still takes an item that it has, so this is told apart before the room is.
    by_cases member : item ∈ members
    · exact ⟨_, insert_of_mem wellFormed ((keeps.mem_iff item).mpr member)⟩
    · apply insert_total wellFormed (by rwa [keeps.width]) real
      rw [keeps.numItems, keeps.width]
      rwa [Finset.union_singleton, Finset.card_insert_of_notMem member] at room
  obtain ⟨rfl, later⟩ := keeps.inserted narrow real run
  exact ⟨after, run, later⟩

theorem Keeps.erase {item : Pair} (keeps : t.Keeps width members) (narrow : item.toNat < 2 ^ width) :
    ∃ after, t.erase item = .ok (after, decide (item ∈ members)) ∧
      after.Keeps width (members \ {item}) := by
  have wellFormed := keeps.wellFormed
  by_cases member : item ∈ members
  · obtain ⟨after, erased, formed, sameWidth, perm⟩ :=
      erase_of_mem wellFormed ((keeps.mem_iff item).mpr member)
    have gone : item ∉ after.items.toFinset := by
      rw [List.mem_toFinset]
      exact (List.nodup_cons.mp (perm.nodup wellFormed.distinct)).1
    refine ⟨after, by simpa [member] using erased, formed, sameWidth.trans keeps.width, ?_⟩
    rw [← keeps.items, List.toFinset_eq_of_perm _ _ perm, List.toFinset_cons,
      Finset.sdiff_singleton_eq_erase, Finset.erase_insert gone]
  · refine ⟨t, ?_, ?_⟩
    · rw [erase_of_notMem wellFormed (mt (keeps.mem_iff item).mp member) (by rwa [keeps.width])]
      simp [member]
    · rwa [Finset.sdiff_singleton_eq_erase, Finset.erase_eq_of_notMem member]

/-- Each call does to the table what it does to the set. -/
theorem Keeps.call {call : Call} (keeps : t.Keeps width members) (fits : call.Fits width)
    (room : (call.onSet members).1.card ≤ capacity width) :
    ∃ after, t.call call = .ok (after, (call.onSet members).2) ∧
      after.Keeps width (call.onSet members).1 := by
  cases call with
  | insert item =>
    obtain ⟨after, inserted, later⟩ := keeps.insert fits.1 fits.2 room
    exact ⟨after, by simp only [PairTable.call, inserted, Call.onSet], later⟩
  | erase item =>
    obtain ⟨after, erased, later⟩ := keeps.erase fits.1
    exact ⟨after, by simp only [PairTable.call, erased, Call.onSet], later⟩
  | clear =>
    obtain ⟨formed, sameWidth, none⟩ := clear_spec keeps.wellFormed
    exact ⟨t.clear, rfl, formed, sameWidth.trans keeps.width, by rw [none]; rfl⟩

/-- A run of calls does to the table what it does to the set, call by call. -/
theorem Keeps.callAll {calls : List Call} (keeps : t.Keeps width members)
    (fits : ∀ call ∈ calls, call.Fits width)
    (room : ∀ step ∈ Call.allOnSet calls members, step.1.card ≤ capacity width) :
    ∃ trace, t.callAll calls = .ok trace ∧
      List.Forall₂ (fun after expected => after.1.Keeps width expected.1 ∧ after.2 = expected.2)
        trace (Call.allOnSet calls members) := by
  induction calls generalizing t members with
  | nil => exact ⟨[], rfl, .nil⟩
  | cons call rest ih =>
    rw [Call.allOnSet, List.forall_mem_cons] at room
    rw [List.forall_mem_cons] at fits
    obtain ⟨next, answered, later⟩ := keeps.call fits.1 room.1
    obtain ⟨trace, run, steps⟩ := ih later fits.2 room.2
    refine ⟨(next, (call.onSet members).2) :: trace, ?_, .cons ⟨later, rfl⟩ steps⟩
    simp only [PairTable.callAll, answered, run]

/-- A new table within its limits is made without a fault and has the items it was made of. -/
theorem Origin.Allowed.make_keeps {origin : Origin} (allowed : origin.Allowed) :
    ∃ t, origin.make = .ok t ∧ t.Keeps origin.width origin.members := by
  have blank {lgSize width : Nat} (limits : 2 ≤ lgSize ∧ lgSize ≤ 26 ∧ lgSize < width ∧ width ≤ 32) :
      ∃ t, new lgSize width = .ok t ∧ t.Keeps width ∅ := by
    obtain ⟨t, made⟩ : ∃ t, new lgSize width = .ok t :=
      ⟨_, by rw [new, if_neg (by omega), if_neg (by omega)]⟩
    obtain ⟨formed, sameWidth, none⟩ := new_spec made
    exact ⟨t, made, formed, sameWidth, by rw [none]; rfl⟩
  cases origin with
  | sized lgSize width => exact blank allowed
  | smallest lgK =>
    have few : lgK ≤ 26 := allowed
    exact blank (by omega)
  | filled lgK items =>
    obtain ⟨few, distinct, fits, named⟩ := allowed
    have real (item : Pair) (member : item ∈ items) := (named item member).2
    have narrow (item : Pair) (member : item ∈ items) := (named item member).1
    obtain ⟨t, made⟩ := ofItems_total distinct real narrow (by omega) (by omega) fits
    obtain ⟨formed, sameWidth, perm, _⟩ := ofItems_spec distinct real narrow made
    exact ⟨t, made, formed, sameWidth, List.toFinset_eq_of_perm _ _ perm⟩

/-- A table is a finite set. Within its limits it is made without a fault, and it goes
through any calls, of items that it can hold, without a fault as long as the set stays within
the capacity. After each call it stands for the set, and the answer is that of the set. -/
theorem callAll_refines_set (origin : Origin) (allowed : origin.Allowed) (calls : List Call)
    (fits : ∀ call ∈ calls, call.Fits origin.width)
    (room : ∀ step ∈ Call.allOnSet calls origin.members, step.1.card ≤ capacity origin.width) :
    ∃ t trace, origin.make = .ok t ∧ t.Holds origin.width origin.members ∧
      t.callAll calls = .ok trace ∧
      List.Forall₂ (fun after expected => after.1.Holds origin.width expected.1 ∧
        after.2 = expected.2) trace (Call.allOnSet calls origin.members) := by
  obtain ⟨t, made, keeps⟩ := allowed.make_keeps
  obtain ⟨trace, run, steps⟩ := keeps.callAll fits room
  refine ⟨t, trace, made, keeps.holds, run, steps.imp ?_⟩
  rintro after expected ⟨later, answer⟩
  exact ⟨later.holds, answer⟩

/-- Four items whose search starts at the last slot of a table of 16 rows and goes round. -/
def roundCalls : List Call :=
  [.insert 1023, .insert 1022, .insert 1021, .insert 1020, .erase 1022, .insert 1021,
    .erase 1023, .erase 1023, .erase 1020, .clear]

/-- The fourth item makes the table of a new counter grow, the removals shrink it again, and
the items that had gone round are found. -/
theorem callAll_refines_set_round : ∃ trace,
    (empty Precision.least).callAll roundCalls = .ok trace ∧
    trace.map (fun after => after.1.lgSize) = [2, 2, 2, 3, 3, 3, 3, 3, 2, 2] ∧
    List.Forall₂ (fun after expected => after.1.Holds 10 expected.1 ∧ after.2 = expected.2) trace
      [({1023}, some true), ({1023, 1022}, some true), ({1023, 1022, 1021}, some true),
        ({1023, 1022, 1021, 1020}, some true), ({1023, 1021, 1020}, some true),
        ({1023, 1021, 1020}, some false), ({1021, 1020}, some true), ({1021, 1020}, some false),
        ({1021}, some true), (∅, none)] := by
  obtain ⟨t, trace, made, _, run, steps⟩ := callAll_refines_set (.smallest 4) (by decide : 4 ≤ 26)
    roundCalls (by decide) (List.all_iff_forall_prop.mp (by decide +kernel))
  cases (make_smallest Precision.least).symm.trans made
  have sizes : ((empty Precision.least).callAll roundCalls).toOption.map
      (List.map fun after => after.1.lgSize) = some [2, 2, 2, 3, 3, 3, 3, 3, 2, 2] := by
    decide +kernel
  rw [run] at sizes
  refine ⟨trace, run, Option.some_inj.mp sizes, ?_⟩
  convert steps using 1
  · rfl
  · decide +kernel

end DistinctCount.PairTable
