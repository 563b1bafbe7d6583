/-! Faults: requests that break a stated limit of an operation. A fault is not an
error about data, it ends the operation and leaves no result. -/
namespace DistinctCount

inductive Fault where
  /-- A counter or union asked for with a precision outside 4 to 26. -/
  | precision (lgK : Nat)
  /-- The window cannot slide this far. -/
  | windowOffset (offset : Nat)
  /-- A report that has a source already was given another one. -/
  | sourceTaken
  /-- A table asked for with too few or too many slots. -/
  | tableSize (lgSize : Nat)
  /-- Items too narrow or too wide for a table of this size. -/
  | itemWidth (validBits lgSize : Nat)
  /-- A table would need to grow or shrink to a size that its items do not allow. -/
  | tableResize (validBits lgSize : Nat)
  /-- An item or a row that lies outside the structure it indexes. -/
  | index
  /-- A search would never end: every slot is taken by another item, or no table is large enough. -/
  | endlessProbe
deriving DecidableEq, Repr

/-- The text of a fault, for those that have one. -/
def Fault.message? : Fault → Option String
  | .precision lgK => some s!"lg_k out of range; got {lgK}"
  | .windowOffset offset => some s!"window offset out of range: {offset}"
  | .sourceTaken => some "the source error has been set"
  | .tableSize lgSize => some s!"lg_size must be in [2, 26], got {lgSize}"
  | .itemWidth validBits lgSize =>
    some s!"num_valid_bits must be in [lg_size + 1, 32], got {validBits} where lg_size = {lgSize}"
  | .tableResize validBits lgSize => some s!"lg_size must be in [2, {validBits}), got {lgSize}"
  | .index => none
  | .endlessProbe => none

end DistinctCount
