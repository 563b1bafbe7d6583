import DistinctCount.Fault
import DistinctCount.Pair

/-! A set of pairs in a power-of-two number of slots. The high bits of a pair
choose its first slot and the search goes on to the next free one, so the slots
hold the pairs nearly in ascending order. The table grows above a load of 3/4 and
shrinks below 1/4, but never under four slots. -/
namespace DistinctCount

structure PairTable where
  lgSize : Nat
  /-- How many low bits of an item can be set. -/
  validBits : Nat
  numItems : Nat
  slots : Array Pair
deriving DecidableEq, Repr

namespace PairTable

open Pair (vacant)

def vacantSlots (lgSize : Nat) : Array Pair := Array.replicate (2 ^ lgSize) vacant

/-- An empty table of `2 ^ lgSize` slots. -/
def new (lgSize validBits : Nat) : Except Fault PairTable :=
  if lgSize < 2 ∨ 26 < lgSize then .error (.tableSize lgSize)
  else if validBits < lgSize + 1 ∨ 32 < validBits then .error (.itemWidth validBits lgSize)
  else .ok ⟨lgSize, validBits, 0, vacantSlots lgSize⟩

/-- The smallest table for the pairs of a counter. -/
def empty (p : Precision) : PairTable := ⟨2, p.pairBits, 0, vacantSlots 2⟩

/-- The stored pairs in slot order. -/
def items (t : PairTable) : List Pair := t.slots.toList.filter (· ≠ vacant)

/-- The first slot at or after `index`, going round, that holds `item` or nothing.
Each slot is looked at once. -/
def search (slots : Array Pair) (item : Pair) : (steps index : Nat) → Except Fault Nat
  | 0, _ => .error .endlessProbe
  | steps + 1, index =>
    if h : index < slots.size then
      if slots[index] = item ∨ slots[index] = vacant then .ok index
      else search slots item steps ((index + 1) % slots.size)
    else .error .index

/-- The slot of `item`, or the one where it would go. The bits above `shift` choose
the slot where the search starts. -/
def locate (slots : Array Pair) (shift : Nat) (item : Pair) : Except Fault Nat :=
  search slots item slots.size (item.toNat >>> shift)

/-- Puts an item into its slot. -/
def place (shift : Nat) (slots : Array Pair) (item : Pair) : Except Fault (Array Pair) :=
  match locate slots shift item with
  | .error fault => .error fault
  | .ok index => .ok (slots.setIfInBounds index item)

def placeAll (shift : Nat) : List Pair → Array Pair → Except Fault (Array Pair)
  | [], slots => .ok slots
  | item :: rest, slots =>
    match place shift slots item with
    | .error fault => .error fault
    | .ok slots => placeAll shift rest slots

/-- Moves every item into a table of `2 ^ lgSize` slots. -/
def resize (t : PairTable) (lgSize : Nat) : Except Fault PairTable :=
  if lgSize < 2 ∨ t.validBits ≤ lgSize then .error (.tableResize t.validBits lgSize)
  else
    match placeAll (t.validBits - lgSize) t.items (vacantSlots lgSize) with
    | .error fault => .error fault
    | .ok slots => .ok ⟨lgSize, t.validBits, t.numItems, slots⟩

/-- Whether more than three quarters of the slots are in use. The products have 32
bits like the counts; from 2^31 slots on the first of them is cut. -/
def isCrowded (t : PairTable) : Bool := 3 * 2 ^ t.lgSize % 2 ^ 32 < 4 * t.numItems % 2 ^ 32

/-- Whether fewer than a quarter of the slots are in use, in the same products. -/
def isScarce (t : PairTable) : Bool := 4 * t.numItems % 2 ^ 32 < 2 ^ t.lgSize % 2 ^ 32

/-- Doubles the slots until at most three quarters are in use. A size that the
items do not allow is a fault, so `room` doublings are enough. -/
def grow : (room : Nat) → PairTable → Except Fault PairTable
  | 0, t => if t.isCrowded then t.resize (t.lgSize + 1) else .ok t
  | room + 1, t =>
    if t.isCrowded then
      match t.resize (t.lgSize + 1) with
      | .error fault => .error fault
      | .ok t => grow room t
    else .ok t

/-- Halves the slots while fewer than a quarter are in use, at most `room` times. -/
def shrink : (room : Nat) → PairTable → Except Fault PairTable
  | 0, t => .ok t
  | room + 1, t =>
    if t.isScarce ∧ 2 < t.lgSize then
      match t.resize (t.lgSize - 1) with
      | .error fault => .error fault
      | .ok t => shrink room t
    else .ok t

/-- Adds an item; the answer says whether it was absent. -/
def insert : PairTable → Pair → Except Fault (PairTable × Bool)
  | ⟨lgSize, validBits, numItems, slots⟩, item =>
    match locate slots (validBits - lgSize) item with
    | .error fault => .error fault
    | .ok index =>
      if slots.getD index vacant = item then .ok (⟨lgSize, validBits, numItems, slots⟩, false)
      else
        match grow (validBits - lgSize)
            ⟨lgSize, validBits, numItems + 1, slots.setIfInBounds index item⟩ with
        | .error fault => .error fault
        | .ok t => .ok (t, true)

/-- Takes each item of the run that starts at `index` out of its slot and places it
again, so that no search stops early at a slot that was freed before the run. -/
def settle (shift : Nat) : (steps index : Nat) → Array Pair → Except Fault (Array Pair)
  | 0, _, _ => .error .endlessProbe
  | steps + 1, index, slots =>
    let item := slots.getD index vacant
    if item = vacant then .ok slots
    else
      match place shift (slots.setIfInBounds index vacant) item with
      | .error fault => .error fault
      | .ok slots => settle shift steps ((index + 1) % slots.size) slots

/-- Removes an item; the answer says whether it was present. -/
def erase : PairTable → Pair → Except Fault (PairTable × Bool)
  | ⟨lgSize, validBits, numItems, slots⟩, item =>
    match locate slots (validBits - lgSize) item with
    | .error fault => .error fault
    | .ok index =>
      if slots.getD index vacant = vacant then
        .ok (⟨lgSize, validBits, numItems, slots⟩, false)
      else
        match settle (validBits - lgSize) slots.size ((index + 1) % slots.size)
            (slots.setIfInBounds index vacant) with
        | .error fault => .error fault
        | .ok slots =>
          match shrink lgSize ⟨lgSize, validBits, numItems - 1, slots⟩ with
          | .error fault => .error fault
          | .ok t => .ok (t, true)

/-- Removes every item and keeps the slots. -/
def clear (t : PairTable) : PairTable :=
  { t with numItems := 0, slots := Array.replicate t.slots.size vacant }

/-- Adds items one after the other. -/
def insertAll : List Pair → PairTable → Except Fault PairTable
  | [], t => .ok t
  | item :: rest, t =>
    match t.insert item with
    | .error fault => .error fault
    | .ok (t, _) => insertAll rest t

/-- The least size from `lgSize` on that holds `count` items at a load of 3/4, in products of
32 bits. -/
def lgSizeFrom (count : Nat) : (steps lgSize : Nat) → Except Fault Nat
  | 0, _ => .error .endlessProbe
  | steps + 1, lgSize =>
    if 3 * 2 ^ lgSize % 2 ^ 32 < 4 * count % 2 ^ 32 then lgSizeFrom count steps (lgSize + 1)
    else .ok lgSize

/-- The size for `count` items. The product is greatest for 2^30 slots, so a count that is too
large for that one is too large for all. -/
def lgSizeFor (count : Nat) : Except Fault Nat := lgSizeFrom count 29 2

/-- A table of distinct items, large enough for all of them from the start. -/
def ofItems (validBits : Nat) (items : List Pair) : Except Fault PairTable :=
  match lgSizeFor items.length with
  | .error fault => .error fault
  | .ok lgSize =>
    match new lgSize validBits with
    | .error fault => .error fault
    | .ok t =>
      match placeAll (validBits - t.lgSize) items t.slots with
      | .error fault => .error fault
      | .ok slots => .ok ⟨t.lgSize, validBits, items.length, slots⟩

/-- Whether an item belongs to the upper half of the slots. -/
def isHigh (t : PairTable) (item : Pair) : Bool := item.toNat.testBit (t.validBits - 1)

/-- Items that are being put into places from both ends. -/
structure Unwinding where
  places : Array Pair
  /-- The next place from the front. -/
  front : Nat
  /-- The place behind the next one from the back. -/
  back : Nat
deriving DecidableEq, Repr

namespace Unwinding

def start (count : Nat) : Unwinding := ⟨Array.replicate count 0, 0, count⟩

/-- Puts an item at the next place from the back or from the front. Items that meet
write over each other; only a place that is not there is a fault. -/
def put : (atBack : Bool) → Pair → Unwinding → Except Fault Unwinding
  | false, item, ⟨places, front, back⟩ =>
    if h : front < places.size then .ok ⟨places.set front item, front + 1, back⟩ else .error .index
  | true, item, ⟨places, front, back⟩ =>
    if h : 0 < back ∧ back - 1 < places.size then
      .ok ⟨places.set (back - 1) item h.2, front, back - 1⟩
    else .error .index

def putAll (atBack : Pair → Bool) : List Pair → Unwinding → Except Fault Unwinding
  | [], u => .ok u
  | item :: rest, u =>
    match u.put (atBack item) item with
    | .error fault => .error fault
    | .ok u => putAll atBack rest u

end Unwinding

/-- Puts the items into places, in the order of their slots. Before the first free slot
those of the upper half have most likely gone round the end of the slots, and they are put
at the back. -/
def unwind (t : PairTable) : Except Fault Unwinding :=
  let slots := t.slots.toList
  match Unwinding.putAll t.isHigh (slots.takeWhile (· ≠ vacant)) (.start t.numItems) with
  | .error fault => .error fault
  | .ok u =>
    Unwinding.putAll (fun _ => false) ((slots.dropWhile (· ≠ vacant)).filter (· ≠ vacant)) u

/-- The items with the ones that went round moved back behind the others. -/
def unwound (t : PairTable) : Except Fault (List Pair) :=
  if t.numItems = 0 then .ok []
  else
    match t.unwind with
    | .error fault => .error fault
    | .ok u => .ok u.places.toList

/-- The items in ascending order. -/
def sorted (t : PairTable) : Except Fault (List Pair) :=
  match t.unwound with
  | .error fault => .error fault
  | .ok items => .ok (items.mergeSort fun a b => a ≤ b)

end PairTable
end DistinctCount
