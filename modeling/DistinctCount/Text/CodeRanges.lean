/-! Sets of characters, given as ranges of code points. -/
namespace DistinctCount.Text

/-- Ranges in ascending order, each with its first and its last code point. -/
abbrev CodeRanges := List (Nat × Nat)

def CodeRanges.contains (ranges : CodeRanges) (c : Char) : Bool :=
  ranges.any fun (first, last) => first ≤ c.toNat && c.toNat ≤ last

end DistinctCount.Text
