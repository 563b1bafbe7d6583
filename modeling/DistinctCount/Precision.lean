import DistinctCount.Powers

/-! The precision of a counter: the binary logarithm of its number of rows. -/
namespace DistinctCount

structure Precision where
  lgK : Nat
  four_le : 4 ≤ lgK
  le_twentySix : lgK ≤ 26
deriving DecidableEq, Repr

namespace Precision

def ofNat? (lgK : Nat) : Option Precision :=
  if h : 4 ≤ lgK ∧ lgK ≤ 26 then some ⟨lgK, h.1, h.2⟩ else none

/-- The least precision, of 16 rows. -/
def least : Precision := ⟨4, by decide, by decide⟩

/-- The next one, of 32 rows. -/
def thirtyTwo : Precision := ⟨5, by decide, by decide⟩

/-- The precision of a counter for which none is chosen. -/
def standard : Precision := ⟨11, by decide, by decide⟩

/-- The number of rows. -/
def rows (p : Precision) : Nat := 2 ^ p.lgK

theorem rows_pos (p : Precision) : 0 < p.rows := Nat.two_pow_pos _

/-- The number of cells, with 64 columns to a row. -/
def cells (p : Precision) : Nat := 64 * p.rows

/-- How many low bits of a packed pair can be set. -/
def pairBits (p : Precision) : Nat := 6 + p.lgK

/-- The number of rows as a double. -/
def rowsFloat (p : Precision) : Float := Float.ofNat p.rows

@[simp] theorem ofNat?_lgK (p : Precision) : ofNat? p.lgK = some p := by
  simp [ofNat?, p.four_le, p.le_twentySix]

theorem ofNat?_eq_some_iff {n : Nat} {p : Precision} : ofNat? n = some p ↔ n = p.lgK := by
  constructor
  · intro found
    unfold ofNat? at found
    split at found
    · cases found
      rfl
    · contradiction
  · intro same
    rw [same, ofNat?_lgK]

end Precision
end DistinctCount
