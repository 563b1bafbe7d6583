import DistinctCount.Error
import DistinctCount.Sketch.Update

/-! Merging counters. The union has the least precision it has met; the rows of a
finer counter are folded onto its own. It collects coupons in a counter while they
are few and in a bit matrix afterwards. -/
namespace DistinctCount

inductive Union.State where
  | accumulator (sketch : Sketch)
  | matrix (rows : BitMatrix)

structure Union where
  precision : Precision
  seed : UInt64
  state : Union.State

namespace Union

def new (p : Precision) (seed : UInt64) : Union :=
  ⟨p, seed, .accumulator (Sketch.newMerged p seed)⟩

/-- `n`, or the number after it where `n` is even. -/
def oddFrom (n : Nat) : Nat := if n % 2 = 0 then n + 1 else n

/-- The golden ratio of the number of slots, made odd. An odd stride meets each of a
power of two of slots once. -/
def stride (count : Nat) : Nat := oddFrom (0.6180339887498949 * Float.ofNat count).toUInt64.toNat

/-- As many slots as there are, each one stride behind the one before, going round. -/
def strides (stride count : Nat) : List Nat :=
  (List.range count).map fun step => (step + 1) * stride % count

/-- The slots of a table in strides, which spreads the pairs of a run. -/
def strideOrder (count : Nat) : List Nat := strides (stride count) count

/-- The pairs of a table in the order of a walk over its slots. -/
def walk (table : PairTable) : List Pair :=
  ((strideOrder table.slots.size).map fun index => table.slots.getD index Pair.vacant).filter
    (· ≠ Pair.vacant)

/-- Collects the pairs of a table in a counter, with rows folded to its precision. -/
def collectTable (s : Sketch) (table : PairTable) : Except Fault Sketch :=
  s.collectAll ((walk table).map (Pair.fold s.precision))

/-- The cells collected so far. -/
def State.bitMatrix : State → BitMatrix
  | .accumulator s => s.bitMatrix
  | .matrix rows => rows

/-- A counter that has outgrown the sparse layout becomes a matrix. -/
def State.ofSketch (s : Sketch) : State :=
  if s.flavor.windowed then .matrix s.bitMatrix else .accumulator s

/-- Lowers the precision of the union to `p`. -/
def reduce (u : Union) (p : Precision) : Except Fault Union :=
  match u.state with
  | .matrix rows =>
    .ok { u with precision := p, state := .matrix ((BitMatrix.zero p).orFolded rows) }
  | .accumulator s =>
    match collectTable (Sketch.newMerged p u.seed) s.table with
    | .error fault => .error fault
    | .ok s => .ok { u with precision := p, state := .ofSketch s }

/-- Merges a sparse counter. An empty union of its precision takes it over as it is. -/
def absorbSparse (u : Union) (source : Sketch) : Except Fault Union :=
  match u.state with
  | .matrix rows => .ok { u with state := .matrix (rows.orPairs source.table.items) }
  | .accumulator s =>
    if s.isEmpty ∧ s.precision = source.precision then
      .ok { u with state := .ofSketch source.dropHistory }
    else
      match collectTable s source.table with
      | .error fault => .error fault
      | .ok s => .ok { u with state := .ofSketch s }

/-- Merges the cells of a window at its offset and those of the table. -/
def orWindow (rows : BitMatrix) (source : Sketch) : BitMatrix :=
  let shifted := source.window.map fun byte => byte.toUInt64 <<< UInt64.ofNat source.offset
  (rows.orFolded shifted).orPairs source.table.items

/-- Merges a counter that is not empty and not coarser than the union. -/
def absorb (u : Union) (source : Sketch) : Except Fault Union :=
  match source.flavor with
  | .empty => .ok u
  | .sparse => u.absorbSparse source
  | .hybrid | .pinned => .ok { u with state := .matrix (orWindow u.state.bitMatrix source) }
  | .sliding =>
    match source.bitMatrix? with
    | .error fault => .error fault
    | .ok rows => .ok { u with state := .matrix (u.state.bitMatrix.orFolded rows) }

/-- Merges a counter into the union. A counter of another seed hash is refused, and
an empty one changes nothing. -/
def update (u : Union) (source : Sketch) : Except Failure Union :=
  let expected := Hash.seedHash u.seed
  let actual := Hash.seedHash source.seed
  if expected ≠ actual then .error (.error (.seedHash expected actual))
  else if source.isEmpty then .ok u
  else if source.precision.lgK < u.precision.lgK then
    match u.reduce source.precision with
    | .error fault => .error (.fault fault)
    | .ok u => Failure.ofFault (u.absorb source)
  else Failure.ofFault (u.absorb source)

/-- The counter of all coupons merged so far. -/
def toSketch (u : Union) : Except Fault Sketch :=
  match u.state with
  | .accumulator s =>
    if s.isEmpty then .ok (Sketch.newMerged u.precision u.seed) else .ok s.dropHistory
  | .matrix rows => Sketch.ofBitMatrix u.precision u.seed rows

end Union
end DistinctCount
