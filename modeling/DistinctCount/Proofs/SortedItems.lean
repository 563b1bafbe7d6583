import DistinctCount.Proofs.ImagePairs
import DistinctCount.Proofs.TableCalls
import Mathlib.Data.List.TakeWhile

/-! The items of a table in ascending order. They are put into as many places as the
table counts items, from both ends at once. Which end an item goes to is a guess, but
since the table counts what it stores, the two ends meet exactly and no item is written
over, wherever the search has gone round. -/
namespace DistinctCount.PairTable

open Pair (vacant)

/-! ### Filling places from both ends -/

namespace Unwinding

variable {u : Unwinding} {count : Nat} {low high : List Pair}

/-- Of `count` places the first hold `low`, the last hold `high` from the back on, and
those between them are blank. -/
structure Laid (u : Unwinding) (count : Nat) (low high : List Pair) : Prop where
  places : ∃ blank, low.length + blank + high.length = count ∧
    u.places.toList = low ++ List.replicate blank 0 ++ high.reverse
  front : u.front = low.length
  back : u.back + high.length = count

theorem start_laid (count : Nat) : (start count).Laid count [] [] :=
  ⟨⟨count, by simp, by simp [start]⟩, rfl, rfl⟩

theorem Laid.size (laid : u.Laid count low high) : u.places.size = count := by
  obtain ⟨blank, total, places⟩ := laid.places
  have length := congrArg List.length places
  simp only [Array.length_toList, List.length_append, List.length_replicate,
    List.length_reverse] at length
  omega

/-- The front writes into the first blank place. -/
theorem Laid.put_front (item : Pair) (laid : u.Laid count low high)
    (room : low.length + high.length < count) :
    ∃ after, u.put false item = .ok after ∧ after.Laid count (low ++ [item]) high := by
  have size := laid.size
  obtain ⟨⟨blank, total, contents⟩, front, back⟩ := laid
  obtain ⟨places, next, behind⟩ := u
  dsimp only at size contents front back
  subst front
  obtain ⟨rest, rfl⟩ : ∃ rest, blank = rest + 1 := ⟨blank - 1, by omega⟩
  have inside : low.length < places.size := by omega
  refine ⟨_, dif_pos inside, ⟨rest, ?_, ?_⟩, by simp, back⟩
  · rw [List.length_append, List.length_singleton]
    omega
  · rw [Array.toList_set, contents, List.replicate_succ]
    simp

/-- The back writes into the last one. -/
theorem Laid.put_back (item : Pair) (laid : u.Laid count low high)
    (room : low.length + high.length < count) :
    ∃ after, u.put true item = .ok after ∧ after.Laid count low (high ++ [item]) := by
  have size := laid.size
  obtain ⟨⟨blank, total, contents⟩, front, back⟩ := laid
  obtain ⟨places, next, behind⟩ := u
  dsimp only at size contents front back
  obtain ⟨rest, rfl⟩ : ∃ rest, blank = rest + 1 := ⟨blank - 1, by omega⟩
  have inside : 0 < behind ∧ behind - 1 < places.size := by omega
  have last : behind - 1 = low.length + rest := by omega
  refine ⟨_, dif_pos inside, ⟨rest, ?_, ?_⟩, front, ?_⟩
  · rw [List.length_append, List.length_singleton]
    omega
  · rw [Array.toList_set, contents, last, List.replicate_succ']
    simp
  · rw [List.length_append, List.length_singleton]
    dsimp only
    omega

/-- As long as there are places enough, each end receives its items in their order and
neither reaches the other. -/
theorem Laid.putAll (atBack : Pair → Bool) (items : List Pair) (laid : u.Laid count low high)
    (room : low.length + high.length + items.length ≤ count) :
    ∃ after, u.putAll atBack items = .ok after ∧
      after.Laid count (low ++ items.filter (!atBack ·)) (high ++ items.filter atBack) := by
  induction items generalizing u low high with
  | nil => exact ⟨u, rfl, by simpa using laid⟩
  | cons item rest ih =>
    rw [List.length_cons] at room
    cases side : atBack item with
    | false =>
      obtain ⟨next, step, laid⟩ := laid.put_front item (by omega)
      obtain ⟨after, run, laid⟩ := ih laid (by rw [List.length_append, List.length_singleton]; omega)
      refine ⟨after, by simp only [Unwinding.putAll, side, step, run], ?_⟩
      simpa [side] using laid
    | true =>
      obtain ⟨next, step, laid⟩ := laid.put_back item (by omega)
      obtain ⟨after, run, laid⟩ := ih laid (by rw [List.length_append, List.length_singleton]; omega)
      refine ⟨after, by simp only [Unwinding.putAll, side, step, run], ?_⟩
      simpa [side] using laid

theorem Laid.met (laid : u.Laid count low high) (full : low.length + high.length = count) :
    u.front = u.back ∧ u.places.toList = low ++ high.reverse := by
  obtain ⟨⟨blank, total, contents⟩, front, back⟩ := laid
  obtain rfl : blank = 0 := by omega
  exact ⟨by omega, by simpa using contents⟩

end Unwinding

variable {t : PairTable}

/-- The items that are put at the back: those of the upper half before the first free slot. -/
def wrapped (t : PairTable) : List Pair := (t.slots.toList.takeWhile (· ≠ vacant)).filter t.isHigh

def unwrapped (t : PairTable) : List Pair :=
  (t.slots.toList.takeWhile (· ≠ vacant)).filter (!t.isHigh ·) ++
    (t.slots.toList.dropWhile (· ≠ vacant)).filter (· ≠ vacant)

theorem unwrapped_wrapped_perm (t : PairTable) : (t.unwrapped ++ t.wrapped).Perm t.items := by
  have run : (t.slots.toList.takeWhile (· ≠ vacant)).filter (· ≠ vacant) =
      t.slots.toList.takeWhile (· ≠ vacant) :=
    List.filter_eq_self.mpr fun _ member => (List.mem_takeWhile_imp member :)
  have parts : t.items = t.slots.toList.takeWhile (· ≠ vacant) ++
      (t.slots.toList.dropWhile (· ≠ vacant)).filter (· ≠ vacant) := by
    rw [items, ← run, ← List.filter_append, List.takeWhile_append_dropWhile]
  rw [parts, unwrapped, wrapped, List.append_assoc]
  refine (List.perm_append_comm.append_left _).trans ?_
  rw [← List.append_assoc]
  refine List.Perm.append_right _ (List.perm_append_comm.trans ?_)
  exact List.filter_append_perm t.isHigh _

/-- A table that counts at least the items it stores puts all of them into places. -/
theorem unwind_laid (enough : t.items.length ≤ t.numItems) :
    ∃ u, t.unwind = .ok u ∧ u.Laid t.numItems t.unwrapped t.wrapped := by
  have length := t.unwrapped_wrapped_perm.length_eq
  simp only [unwrapped, wrapped, List.length_append] at length
  have split := (List.filter_append_perm t.isHigh (t.slots.toList.takeWhile (· ≠ vacant))).length_eq
  rw [List.length_append] at split
  obtain ⟨first, run, laid⟩ := (Unwinding.start_laid t.numItems).putAll t.isHigh
    (t.slots.toList.takeWhile (· ≠ vacant)) (by simp only [List.length_nil]; omega)
  obtain ⟨u, rest, laid⟩ := laid.putAll (fun _ => false)
    ((t.slots.toList.dropWhile (· ≠ vacant)).filter (· ≠ vacant))
    (by simp only [List.nil_append]; omega)
  refine ⟨u, by simp only [unwind, run, rest], ?_⟩
  simpa [unwrapped, wrapped] using laid

/-! ### Tables under calls -/

/-- Tables that come about by calls, with the set that the same calls make. -/
inductive Reached : PairTable → Finset Pair → Prop
  | made {origin : Origin} {t : PairTable} :
      origin.Allowed → origin.make = .ok t → Reached t origin.members
  | called {t after : PairTable} {members : Finset Pair} {call : Call} {answer : Option Bool} :
      Reached t members → call.Fits t.validBits → t.call call = .ok (after, answer) →
        Reached after (call.onSet members).1

theorem Keeps.called {width : Nat} {members : Finset Pair} {call : Call} {after : PairTable}
    {answer : Option Bool} (keeps : t.Keeps width members) (fits : call.Fits width)
    (run : t.call call = .ok (after, answer)) : after.Keeps width (call.onSet members).1 := by
  cases call with
  | insert item =>
    simp only [PairTable.call] at run
    split at run
    · contradiction
    · rename_i next novel inserted
      cases run
      exact (keeps.inserted fits.1 fits.2 inserted).2
  | erase item =>
    obtain ⟨next, erased, later⟩ := keeps.erase fits.1
    simp only [PairTable.call, erased] at run
    cases run
    exact later
  | clear =>
    obtain ⟨formed, sameWidth, none⟩ := clear_spec keeps.wellFormed
    cases run
    exact ⟨formed, sameWidth.trans keeps.width, by rw [none]; rfl⟩

theorem Reached.keeps {members : Finset Pair} (reached : t.Reached members) :
    t.Keeps t.validBits members := by
  induction reached with
  | made allowed made =>
    obtain ⟨t, run, keeps⟩ := allowed.make_keeps
    cases run.symm.trans made
    exact keeps.width.symm ▸ keeps
  | called _ fits run ih =>
    have later := ih.called fits run
    exact later.width.symm ▸ later

/-- A table lists its set in ascending order. Whatever calls have led to it, it counts what
it stores; its items are put into places without a fault, the two ends meet, and each item
has one place; and sorted they are the members of the set, each once. -/
theorem sorted_enumerates {members : Finset Pair} (reached : t.Reached members) :
    t.numItems = t.items.length ∧
    (∃ u, t.unwind = .ok u ∧ u.front = u.back ∧ t.unwound = .ok u.places.toList ∧
      u.places.toList.Perm t.items) ∧
    ∃ listed, t.sorted = .ok listed ∧ listed.Perm t.items ∧ listed.Pairwise (· < ·) ∧
      listed.toFinset = members := by
  have keeps := reached.keeps
  have count := keeps.wellFormed.numItems
  have perm := t.unwrapped_wrapped_perm
  obtain ⟨u, unwinds, laid⟩ := unwind_laid count.ge
  obtain ⟨met, contents⟩ := laid.met (by rw [← List.length_append, perm.length_eq, count])
  have places : u.places.toList.Perm t.items := by
    rw [contents]
    exact ((List.reverse_perm _).append_left _).trans perm
  have unwound : t.unwound = .ok u.places.toList := by
    rw [PairTable.unwound]
    split
    · rename_i none
      have size := laid.size
      rw [none] at size
      rw [Array.eq_empty_of_size_eq_zero size]
    · rw [unwinds]
  have sorted : t.sorted = .ok (Sketch.sortPairs u.places.toList) := by
    rw [PairTable.sorted, unwound]
    rfl
  have listed := (Sketch.sortPairs_perm u.places.toList).trans places
  refine ⟨count, ⟨u, unwinds, met, unwound, places⟩, _, sorted, listed, ?_, ?_⟩
  · exact Sketch.sortPairs_ascending (places.nodup_iff.mpr keeps.wellFormed.distinct)
  · rw [List.toFinset_eq_of_perm _ _ listed, keeps.items]

/-- Two items start at the last of four slots, so the second goes round and takes the slot
where a small one starts. An item of the upper half that stands in its own slot is put at
the front. -/
theorem sorted_enumerates_round : ∃ t : PairTable, t.Reached {3, 1022, 1023} ∧
    t.slots = #[1022, 3, vacant, 1023] ∧ t.unwound = .ok [3, 1023, 1022] ∧
    ∃ listed, t.sorted = .ok listed ∧ listed.Pairwise (· < ·) ∧
      listed.toFinset = {3, 1022, 1023} := by
  have fresh : Reached ⟨2, 10, 0, #[vacant, vacant, vacant, vacant]⟩ ∅ :=
    @Reached.made (.smallest 4) _ (by decide : 4 ≤ 26) rfl
  have first : Reached ⟨2, 10, 1, #[vacant, vacant, vacant, 1023]⟩ (∅ ∪ {1023}) :=
    @Reached.called _ _ _ (.insert 1023) (some true) fresh (by decide) rfl
  have second : Reached ⟨2, 10, 2, #[1022, vacant, vacant, 1023]⟩ (∅ ∪ {1023} ∪ {1022}) :=
    @Reached.called _ _ _ (.insert 1022) (some true) first (by decide) rfl
  have third : Reached ⟨2, 10, 3, #[1022, 3, vacant, 1023]⟩ (∅ ∪ {1023} ∪ {1022} ∪ {3}) :=
    @Reached.called _ _ _ (.insert 3) (some true) second (by decide) rfl
  have members : (∅ ∪ {1023} ∪ {1022} ∪ {3} : Finset Pair) = {3, 1022, 1023} := by decide
  rw [members] at third
  obtain ⟨_, _, listed, sorted, _, ascending, all⟩ := sorted_enumerates third
  exact ⟨_, third, rfl, rfl, listed, sorted, ascending, all⟩

end DistinctCount.PairTable
