import DistinctCount.BitMatrix
import DistinctCount.Sketch.Update
import Mathlib.Data.Nat.Bitwise

/-! The words of a matrix as sets of columns. Every operation of the layout on a
word is read here once as an operation on its columns, so that no later proof
looks inside a word. -/
namespace DistinctCount

namespace Row

theorem isSet_eq_testBit (row : UInt64) {column : Nat} (small : column < 64) :
    isSet row column = row.toNat.testBit column := by
  have shift : (UInt64.ofNat column).toNat % 64 = column := by
    simp only [UInt64.toNat_ofNat']
    omega
  have value : ((row >>> UInt64.ofNat column) &&& 1).toNat = row.toNat / 2 ^ column % 2 := by
    rw [UInt64.toNat_and, UInt64.toNat_shiftRight, shift, UInt64.toNat_one, Nat.and_one_is_mod,
      Nat.shiftRight_eq_div_pow]
  rw [isSet, Nat.testBit_eq_decide_div_mod_eq, Bool.eq_iff_iff, bne_iff_ne, ne_eq,
    ← UInt64.toNat_inj, value, UInt64.toNat_zero, decide_eq_true_eq]
  omega

theorem ext {a b : UInt64} (same : ∀ column < 64, isSet a column = isSet b column) : a = b := by
  apply UInt64.toNat_inj.mp
  apply Nat.eq_of_testBit_eq
  intro column
  by_cases small : column < 64
  · rw [← isSet_eq_testBit a small, ← isSet_eq_testBit b small, same column small]
  · have large : 2 ^ 64 ≤ 2 ^ column := Nat.pow_le_pow_right (by decide) (by omega)
    rw [Nat.testBit_lt_two_pow (a.toNat_lt.trans_le large),
      Nat.testBit_lt_two_pow (b.toNat_lt.trans_le large)]

variable {column : Nat}

@[simp] theorem isSet_zero : isSet 0 column = false := by
  simp [isSet]

theorem isSet_or (a b : UInt64) (small : column < 64) :
    isSet (a ||| b) column = (isSet a column || isSet b column) := by
  simp only [isSet_eq_testBit _ small, UInt64.toNat_or, Nat.testBit_or]

theorem isSet_and (a b : UInt64) (small : column < 64) :
    isSet (a &&& b) column = (isSet a column && isSet b column) := by
  simp only [isSet_eq_testBit _ small, UInt64.toNat_and, Nat.testBit_and]

theorem isSet_xor (a b : UInt64) (small : column < 64) :
    isSet (a ^^^ b) column = (isSet a column ^^ isSet b column) := by
  simp only [isSet_eq_testBit _ small, UInt64.toNat_xor, Nat.testBit_xor]

theorem isSet_not (a : UInt64) (small : column < 64) :
    isSet (~~~a) column = !isSet a column := by
  have value : (~~~a).toNat = 2 ^ 64 - (a.toNat + 1) := by
    rw [UInt64.toNat_not, UInt64.size]
    omega
  rw [isSet_eq_testBit _ small, isSet_eq_testBit _ small, value,
    Nat.testBit_two_pow_sub_succ a.toNat_lt, decide_eq_true small, Bool.true_and]

theorem isSet_shiftLeft (a : UInt64) {shift : Nat} (small : column < 64) (within : shift < 64) :
    isSet (a <<< UInt64.ofNat shift) column =
      (decide (shift ≤ column) && a.toNat.testBit (column - shift)) := by
  have amount : (UInt64.ofNat shift).toNat % 64 = shift := by
    simp only [UInt64.toNat_ofNat']
    omega
  rw [isSet_eq_testBit _ small, UInt64.toNat_shiftLeft, amount, Nat.testBit_mod_two_pow,
    decide_eq_true small, Bool.true_and, Nat.testBit_shiftLeft]

theorem isSet_single {other : Nat} (small : column < 64) (within : other < 64) :
    isSet (single other) column = decide (column = other) := by
  have one : (1 : UInt64).toNat = 2 ^ 0 := rfl
  rw [single, isSet_shiftLeft 1 small within, one, Nat.testBit_two_pow, ← Bool.decide_and]
  apply decide_eq_decide.mpr
  omega

theorem isSet_below {limit : Nat} (small : column < 64) (within : limit < 64) :
    isSet (below limit) column = decide (column < limit) := by
  have bound : 2 ^ limit < 2 ^ 64 := Nat.pow_lt_pow_right (by decide) within
  have positive : 0 < 2 ^ limit := Nat.two_pow_pos limit
  have amount : (UInt64.ofNat limit).toNat % 64 = limit := by
    simp only [UInt64.toNat_ofNat']
    omega
  have power : (single limit).toNat = 2 ^ limit := by
    rw [single, UInt64.toNat_shiftLeft, amount, UInt64.toNat_one, Nat.one_shiftLeft,
      Nat.mod_eq_of_lt bound]
  have value : (below limit).toNat = 2 ^ limit - 1 := by
    have one : (1 : UInt64) ≤ single limit := by
      rw [UInt64.le_iff_toNat_le, power, UInt64.toNat_one]
      omega
    rw [below, UInt64.toNat_sub_of_le _ _ one, power, UInt64.toNat_one]
  rw [isSet_eq_testBit _ small, value, Nat.testBit_two_pow_sub_one]

theorem mem_columns {row : UInt64} : column ∈ columns row ↔ column < 64 ∧ isSet row column = true := by
  unfold columns
  split
  · rename_i zero
    simp [zero]
  · simp [List.mem_filter]

theorem nodup_columns (row : UInt64) : (columns row).Nodup := by
  unfold columns
  split
  · exact List.nodup_nil
  · exact List.nodup_range.filter _

theorem clear_before_firstColumn {row : UInt64} (before : column < firstColumn row) :
    column < 64 → isSet row column = false := by
  intro small
  unfold firstColumn at before
  cases found : (List.range 64).find? (isSet row) with
  | none =>
    rw [List.find?_eq_none] at found
    simpa using found column (List.mem_range.mpr small)
  | some first =>
    simp only [found, Option.getD_some] at before
    rw [List.find?_range_eq_some] at found
    simpa using found.2.2 column before

theorem isSet_firstColumn {row : UInt64} (small : firstColumn row < 64) :
    isSet row (firstColumn row) = true := by
  cases found : (List.range 64).find? (isSet row) with
  | none =>
    simp only [firstColumn, found, Option.getD_none] at small
    contradiction
  | some first =>
    simp only [firstColumn, found, Option.getD_some]
    exact List.find?_some found

end Row

namespace Sketch

open Row

variable {offset column : Nat}

theorem isSet_windowShift (byte : UInt8) (small : column < 64) (within : offset < 64) :
    isSet (byte.toUInt64 <<< UInt64.ofNat offset) column =
      (decide (offset ≤ column) && byte.toNat.testBit (column - offset)) := by
  rw [isSet_shiftLeft _ small within, UInt8.toNat_toUInt64]

theorem lt_of_testBit_byte {byte : UInt8} {bit : Nat} (set : byte.toNat.testBit bit = true) :
    bit < 8 := by
  by_contra large
  have bound : byte.toNat < 2 ^ bit :=
    byte.toNat_lt.trans_le (Nat.pow_le_pow_right (by decide) (by omega : 8 ≤ bit))
  rw [Nat.testBit_lt_two_pow bound] at set
  contradiction

/-- A row beside a window: full before it, and then the bits of its byte. -/
theorem isSet_windowRow (byte : UInt8) (small : column < 64) (within : offset < 64) :
    isSet (below offset ||| byte.toUInt64 <<< UInt64.ofNat offset) column =
      (decide (column < offset) || (decide (offset ≤ column) && byte.toNat.testBit (column - offset))) := by
  rw [isSet_or _ _ small, isSet_below small within, isSet_windowShift _ small within]

theorem testBit_windowByte (row : UInt64) {bit : Nat} (within : offset + bit < 64) :
    (windowByte offset row).toNat.testBit bit = (decide (bit < 8) && isSet row (offset + bit)) := by
  have amount : (UInt64.ofNat offset).toNat % 64 = offset := by
    simp only [UInt64.toNat_ofNat']
    omega
  rw [windowByte, UInt64.toNat_toUInt8, UInt64.toNat_shiftRight, amount, Nat.testBit_mod_two_pow,
    Nat.testBit_shiftRight, isSet_eq_testBit _ within]

/-- A window byte has no bits for columns behind the last. -/
theorem lt_of_testBit_windowByte {row : UInt64} {bit : Nat} (within : offset < 64)
    (set : (windowByte offset row).toNat.testBit bit = true) : offset + bit < 64 := by
  have amount : (UInt64.ofNat offset).toNat % 64 = offset := by
    simp only [UInt64.toNat_ofNat']
    omega
  by_contra behind
  have small : row.toNat < 2 ^ (offset + bit) :=
    row.toNat_lt.trans_le (Nat.pow_le_pow_right (by decide) (by omega))
  rw [windowByte, UInt64.toNat_toUInt8, UInt64.toNat_shiftRight, amount, Nat.testBit_mod_two_pow,
    Nat.testBit_shiftRight, Nat.testBit_lt_two_pow small, Bool.and_false] at set
  contradiction

theorem isSet_surprises (row : UInt64) (small : column < 64) (within : offset < 64) :
    isSet (surprises offset row) column =
      if column < offset then !isSet row column
      else if column < offset + 8 then false else isSet row column := by
  have window : isSet (0xff <<< UInt64.ofNat offset) column =
      decide (offset ≤ column ∧ column < offset + 8) := by
    have ones : (0xff : UInt64).toNat = 2 ^ 8 - 1 := rfl
    rw [isSet_shiftLeft _ small within, ones, Nat.testBit_two_pow_sub_one, ← Bool.decide_and]
    apply decide_eq_decide.mpr
    omega
  rw [surprises, isSet_xor _ _ small, isSet_and _ _ small, isSet_not _ small, window,
    isSet_below small within]
  by_cases early : column < offset
  · simp [early, Nat.not_le.mpr early]
  · by_cases late : column < offset + 8
    · simp [early, late, Nat.le_of_not_lt early]
    · simp [early, late]

end Sketch
end DistinctCount
