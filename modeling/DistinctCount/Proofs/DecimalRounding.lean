import DistinctCount.Decimal.Rounding
import Mathlib.Algebra.Order.Field.Power
import Mathlib.Data.Int.Log
import Mathlib.Data.Rat.Floor
import Mathlib.Tactic.FieldSimp
import Mathlib.Tactic.Linarith
import Mathlib.Tactic.Positivity

/-! Rounding to significant digits, as a statement about rational numbers. A number is
rounded to a multiple of a power of ten, and the power is chosen by the leading digit of
the number. Rounding up to a higher power of ten does not matter: the same number results
from rounding where its own last digit stands. -/
namespace DistinctCount.Decimal

/-- A number of units is what `x` is rounded to. It is half a unit away at the most, and
of two that are equally near it is the even one. -/
structure RoundsTo (unit x : ℚ) (n : ℤ) : Prop where
  near : |x - n * unit| ≤ unit / 2
  even : |x - n * unit| = unit / 2 → Even n

namespace RoundsTo

variable {unit x : ℚ} {n m : ℤ}

theorem unique (positive : 0 < unit) (first : RoundsTo unit x n) (second : RoundsTo unit x m) :
    n = m := by
  by_contra different
  have apart : (1 : ℚ) ≤ |((n - m : ℤ) : ℚ)| := by
    exact_mod_cast Int.one_le_abs (sub_ne_zero.mpr different)
  have split : ((n - m : ℤ) : ℚ) * unit = (x - m * unit) - (x - n * unit) := by
    push_cast
    ring
  have spread : |((n - m : ℤ) : ℚ)| * unit ≤ |x - m * unit| + |x - n * unit| := by
    rw [← abs_of_pos positive, ← abs_mul, abs_of_pos positive, split]
    exact abs_sub _ _
  have least : unit ≤ |((n - m : ℤ) : ℚ)| * unit := le_mul_of_one_le_left positive.le apart
  -- Two different multiples are both half a unit away, so they are even and next to each other.
  obtain ⟨a, evenN⟩ := first.even (by linarith [first.near, second.near])
  obtain ⟨b, evenM⟩ := second.even (by linarith [first.near, second.near])
  have close : |((n - m : ℤ) : ℚ)| ≤ 1 := by
    by_contra far
    nlinarith [first.near, second.near]
  have close : |n - m| ≤ 1 := by exact_mod_cast close
  rw [abs_le] at close
  omega

theorem scale {factor : ℚ} (positive : 0 < factor) (rounds : RoundsTo unit x n) :
    RoundsTo (unit * factor) (x * factor) n := by
  have distance : |x * factor - n * (unit * factor)| = |x - n * unit| * factor := by
    rw [← abs_of_pos positive, ← abs_mul, abs_of_pos positive]
    ring_nf
  have half : unit * factor / 2 = unit / 2 * factor := by ring
  refine ⟨?_, fun tie => rounds.even ?_⟩
  · rw [distance, half]
    exact mul_le_mul_of_nonneg_right rounds.near positive.le
  · rw [distance, half] at tie
    exact mul_right_cancel₀ positive.ne' tie

theorem neg (rounds : RoundsTo unit x n) : RoundsTo unit (-x) (-n) := by
  have distance : |-x - ((-n : ℤ) : ℚ) * unit| = |x - n * unit| := by
    rw [← abs_neg]
    push_cast
    ring_nf
  refine ⟨?_, fun tie => ?_⟩
  · rw [distance]
    exact rounds.near
  · rw [distance] at tie
    exact (rounds.even tie).neg

/-- What lies above a multiple is not rounded below it. -/
theorem le (positive : 0 < unit) (rounds : RoundsTo unit x n) {low : ℤ} (above : low * unit ≤ x) :
    low ≤ n := by
  by_contra less
  have next : (n : ℚ) + 1 ≤ low := by exact_mod_cast Int.not_le.mp less
  have near := (abs_le.mp rounds.near).2
  nlinarith

theorem ge (positive : 0 < unit) (rounds : RoundsTo unit x n) {high : ℤ} (under : x ≤ high * unit) :
    n ≤ high := by
  by_contra more
  have next : (high : ℚ) + 1 ≤ n := by exact_mod_cast Int.not_le.mp more
  have near := (abs_le.mp rounds.near).1
  nlinarith

end RoundsTo

variable {numerator denominator : Nat}

/-! ### Ratios -/

theorem RoundsTo.of_lt {x : ℚ} {n : ℤ} (near : |x - n| < 1 / 2) : RoundsTo 1 x n := by
  refine ⟨?_, fun tie => ?_⟩
  · rw [mul_one]
    exact near.le
  · rw [mul_one] at tie
    exact absurd tie near.ne

theorem divHalfEven_rounds (positive : 0 < denominator) :
    RoundsTo 1 (numerator / denominator) (divHalfEven numerator denominator) := by
  have some : (0 : ℚ) < denominator := by exact_mod_cast positive
  have whole : (denominator : ℚ) * ((numerator / denominator : ℕ) : ℚ) +
      ((numerator % denominator : ℕ) : ℚ) = numerator := by
    exact_mod_cast Nat.div_add_mod numerator denominator
  have less : numerator % denominator < denominator := Nat.mod_lt numerator positive
  unfold divHalfEven
  generalize numerator / denominator = quotient at whole
  generalize numerator % denominator = remainder at whole less
  have split : (numerator : ℚ) / denominator = quotient + remainder / denominator := by
    rw [← whole]
    field_simp
  have least : (0 : ℚ) ≤ remainder / denominator := by positivity
  have most : (remainder : ℚ) / denominator < 1 := by
    rw [div_lt_one some]
    exact_mod_cast less
  rw [split]
  dsimp only
  split_ifs with below above
  · have half : (remainder : ℚ) / denominator < 1 / 2 := by
      rw [div_lt_div_iff₀ some two_pos]
      exact_mod_cast (by omega : remainder * 2 < 1 * denominator)
    apply RoundsTo.of_lt
    push_cast
    rw [abs_lt]
    constructor <;> linarith
  · have half : 1 / 2 < (remainder : ℚ) / denominator := by
      rw [div_lt_div_iff₀ two_pos some]
      exact_mod_cast (by omega : 1 * denominator < remainder * 2)
    apply RoundsTo.of_lt
    push_cast
    rw [abs_lt]
    constructor <;> linarith
  · have half : (remainder : ℚ) / denominator = 1 / 2 := by
      rw [div_eq_div_iff some.ne' two_ne_zero]
      exact_mod_cast (by omega : remainder * 2 = 1 * denominator)
    have even : Even (((quotient + quotient % 2 : ℕ) : ℤ)) := by
      rw [Int.even_iff]
      omega
    refine ⟨?_, fun _ => even⟩
    rw [half]
    rcases Nat.mod_two_eq_zero_or_one quotient with same | odd
    · rw [same]
      norm_num
    · rw [odd]
      push_cast
      rw [abs_le]
      constructor <;> linarith

theorem roundAt_rounds (positive : 0 < denominator) (scale : ℤ) :
    RoundsTo (10 ^ scale) (numerator / denominator) (roundAt numerator denominator scale) := by
  have some : (denominator : ℚ) ≠ 0 := by exact_mod_cast positive.ne'
  unfold roundAt
  split_ifs with up
  · obtain ⟨k, rfl⟩ := Int.eq_ofNat_of_zero_le up
    have rounds := (@divHalfEven_rounds numerator (denominator * 10 ^ k) (by positivity)).scale
      (by positivity : (0 : ℚ) < 10 ^ (k : ℤ))
    have same : (numerator : ℚ) / ((denominator * 10 ^ k : ℕ) : ℚ) * 10 ^ (k : ℤ) =
        numerator / denominator := by
      push_cast
      rw [zpow_natCast]
      field_simp
    rwa [one_mul, same] at rounds
  · obtain ⟨k, rfl⟩ : ∃ k : ℕ, scale = -(k : ℤ) := ⟨scale.natAbs, by omega⟩
    have rounds := (@divHalfEven_rounds (numerator * 10 ^ k) denominator positive).scale
      (by positivity : (0 : ℚ) < 10 ^ (-(k : ℤ)))
    have same : ((numerator * 10 ^ k : ℕ) : ℚ) / denominator * 10 ^ (-(k : ℤ)) =
        numerator / denominator := by
      push_cast
      rw [zpow_neg, zpow_natCast]
      field_simp
    rw [one_mul, same] at rounds
    simpa using rounds

/-! ### The leading digit -/

theorem exists_digitCount {n : Nat} (positive : 0 < n) :
    ∃ k, digitCount n = k + 1 ∧ 10 ^ k ≤ n ∧ n < 10 ^ (k + 1) := by
  fun_induction digitCount n with
  | case1 n small => exact ⟨0, rfl, positive, small⟩
  | case2 n large ih =>
    obtain ⟨k, count, low, high⟩ := ih (by omega)
    refine ⟨k + 1, by rw [count], ?_, ?_⟩ <;> rw [Nat.pow_succ] <;> omega

theorem log_eq_of_bounds {x : ℚ} {exponent : ℤ} (low : 10 ^ exponent ≤ x)
    (high : x < 10 ^ (exponent + 1)) : Int.log 10 x = exponent := by
  have positive : 0 < x := lt_of_lt_of_le (by positivity) low
  have atLeast : exponent ≤ Int.log 10 x :=
    (Int.zpow_le_iff_le_log (by decide) positive).mp (by exact_mod_cast low)
  have atMost : Int.log 10 x < exponent + 1 :=
    (Int.lt_zpow_iff_log_lt (by decide) positive).mp (by exact_mod_cast high)
  omega

theorem log_bounds {x : ℚ} (positive : 0 < x) :
    10 ^ Int.log 10 x ≤ x ∧ x < 10 ^ (Int.log 10 x + 1) :=
  ⟨by exact_mod_cast Int.zpow_log_le_self (b := 10) (by decide) positive,
    by exact_mod_cast Int.lt_zpow_succ_log_self (b := 10) (by decide) x⟩

theorem leadingExponent_eq (some : 0 < numerator) (positive : 0 < denominator) :
    leadingExponent numerator denominator = Int.log 10 ((numerator : ℚ) / denominator) := by
  have divisor : (0 : ℚ) < denominator := by exact_mod_cast positive
  unfold leadingExponent
  split_ifs with large
  · obtain ⟨k, count, low, high⟩ := exists_digitCount (Nat.div_pos large positive)
    rw [Nat.le_div_iff_mul_le positive] at low
    rw [Nat.div_lt_iff_lt_mul positive] at high
    have exponent : ((digitCount (numerator / denominator) : ℕ) : ℤ) - 1 = k := by omega
    rw [exponent, eq_comm]
    apply log_eq_of_bounds
    · rw [le_div_iff₀ divisor]
      exact_mod_cast low
    · rw [div_lt_iff₀ divisor]
      exact_mod_cast high
  · have quotient : 0 < (denominator - 1) / numerator := Nat.div_pos (by omega) some
    obtain ⟨k, count, low, high⟩ := exists_digitCount quotient
    rw [Nat.le_div_iff_mul_le some] at low
    rw [Nat.div_lt_iff_lt_mul some] at high
    rw [count, eq_comm]
    apply log_eq_of_bounds
    · rw [le_div_iff₀ divisor, zpow_neg, inv_mul_le_iff₀ (by positivity)]
      exact_mod_cast (by omega : denominator ≤ 10 ^ (k + 1) * numerator)
    · have exponent : -((k + 1 : ℕ) : ℤ) + 1 = -(k : ℤ) := by omega
      rw [div_lt_iff₀ divisor, exponent, zpow_neg, lt_inv_mul_iff₀ (by positivity)]
      exact_mod_cast (by omega : 10 ^ k * numerator < denominator)

/-! ### Significant digits -/

/-- The power of ten at which the last of `places` significant digits of a number stands. -/
def lastUnit (places : Nat) (x : ℚ) : ℚ := 10 ^ (Int.log 10 |x| - places + 1)

def IsRounded (places : Nat) (x rounded : ℚ) : Prop :=
  ∃ n : ℤ, RoundsTo (lastUnit places x) x n ∧ rounded = n * lastUnit places x

@[simp] theorem lastUnit_neg (places : Nat) (x : ℚ) : lastUnit places (-x) = lastUnit places x := by
  rw [lastUnit, abs_neg, lastUnit]

theorem IsRounded.neg {places : Nat} {x rounded : ℚ} (rounds : IsRounded places x rounded) :
    IsRounded places (-x) (-rounded) := by
  obtain ⟨n, nearest, rfl⟩ := rounds
  refine ⟨-n, ?_, ?_⟩
  · rw [lastUnit_neg]
    exact nearest.neg
  · rw [lastUnit_neg]
    push_cast
    ring

def Scientific.value (places : Nat) (s : Scientific) : ℚ :=
  s.coefficient * 10 ^ (s.exponent - places + 1)

theorem Scientific.log_value {places : Nat} {s : Scientific} (digits : 0 < places)
    (low : 10 ^ (places - 1) ≤ s.coefficient) (high : s.coefficient < 10 ^ places) :
    Int.log 10 (s.value places) = s.exponent := by
  have last : (0 : ℚ) < 10 ^ (s.exponent - places + 1) := by positivity
  have low : (10 : ℚ) ^ (places - 1) ≤ s.coefficient := by exact_mod_cast low
  have high : (s.coefficient : ℚ) < 10 ^ places := by exact_mod_cast high
  apply log_eq_of_bounds
  · calc (10 : ℚ) ^ s.exponent = 10 ^ (places - 1) * 10 ^ (s.exponent - places + 1) := by
          rw [← zpow_natCast, ← zpow_add₀ (by norm_num)]
          congr 1
          omega
      _ ≤ s.value places := mul_le_mul_of_nonneg_right low last.le
  · calc s.value places < 10 ^ places * 10 ^ (s.exponent - places + 1) :=
          mul_lt_mul_of_pos_right high last
      _ = 10 ^ (s.exponent + 1) := by
          rw [← zpow_natCast, ← zpow_add₀ (by norm_num)]
          congr 1
          omega

/-- What is rounded to a multiple of ten units is rounded to the same number where ten of
these units are one. -/
theorem RoundsTo.coarser {unit x : ℚ} {n : ℤ} (positive : 0 < unit)
    (rounds : RoundsTo unit x (10 * n)) : RoundsTo (10 * unit) x n := by
  have same : x - n * (10 * unit) = x - ((10 * n : ℤ) : ℚ) * unit := by
    push_cast
    ring
  refine ⟨?_, fun tie => ?_⟩
  · rw [same]
    linarith [rounds.near]
  · rw [same] at tie
    linarith [rounds.near]

/-- What a ratio is rounded to lies between the powers of ten around the ratio. -/
theorem roundAt_bounds {places : Nat} {exponent : ℤ} (digits : 0 < places)
    (positive : 0 < denominator) (low : (10 : ℚ) ^ exponent ≤ numerator / denominator)
    (high : (numerator : ℚ) / denominator < 10 ^ (exponent + 1)) :
    10 ^ (places - 1) ≤ roundAt numerator denominator (exponent - places + 1) ∧
      roundAt numerator denominator (exponent - places + 1) ≤ 10 ^ places := by
  have rounds := @roundAt_rounds numerator denominator positive (exponent - places + 1)
  have unit : (0 : ℚ) < 10 ^ (exponent - places + 1) := by positivity
  have least : (((10 ^ (places - 1) : ℕ) : ℤ) : ℚ) * 10 ^ (exponent - places + 1) = 10 ^ exponent := by
    push_cast
    rw [← zpow_natCast, ← zpow_add₀ (by norm_num)]
    congr 1
    omega
  have most : (((10 ^ places : ℕ) : ℤ) : ℚ) * 10 ^ (exponent - places + 1) = 10 ^ (exponent + 1) := by
    push_cast
    rw [← zpow_natCast, ← zpow_add₀ (by norm_num)]
    congr 1
    omega
  constructor
  · exact_mod_cast rounds.le unit (least ▸ low)
  · exact_mod_cast rounds.ge unit (most ▸ high.le)

/-- Rounding to significant digits. The coefficient has so many digits, it stands for the
ratio rounded at the last of them, and rounding the ratio again at the last digit of the
result changes nothing. -/
structure Scientific.Rounds (places numerator denominator : Nat) (s : Scientific) : Prop where
  low : 10 ^ (places - 1) ≤ s.coefficient
  high : s.coefficient < 10 ^ places
  rounded : IsRounded places (numerator / denominator) (s.value places)
  again : roundAt numerator denominator (s.exponent - places + 1) = s.coefficient

theorem round_rounds {places : Nat} (some : 0 < numerator) (positive : 0 < denominator)
    (digits : 0 < places) :
    (round places numerator denominator).Rounds places numerator denominator := by
  have ratio : (0 : ℚ) < numerator / denominator := by positivity
  obtain ⟨low, high⟩ := log_bounds ratio
  obtain ⟨least, most⟩ := roundAt_bounds digits positive low high
  have rounds := @roundAt_rounds numerator denominator positive
    (Int.log 10 ((numerator : ℚ) / denominator) - places + 1)
  have unit : lastUnit places (numerator / denominator) =
      10 ^ (Int.log 10 ((numerator : ℚ) / denominator) - places + 1) := by
    rw [lastUnit, abs_of_pos ratio]
  rw [round, leadingExponent_eq some positive]
  generalize Int.log 10 ((numerator : ℚ) / denominator) = exponent at *
  split_ifs with carry
  · -- The coefficient is a power of ten, and one digit fewer before the last place.
    have power : 10 ^ places = 10 * 10 ^ (places - 1) := by
      rw [← Nat.pow_succ']
      congr 1
      omega
    have shifted : (10 : ℚ) ^ (exponent + 1 - places + 1) = 10 * 10 ^ (exponent - places + 1) := by
      rw [← zpow_one_add₀ (by norm_num)]
      congr 1
      omega
    rw [carry, power] at rounds
    have shorter : 10 ^ (places - 1) < 10 ^ places := Nat.pow_lt_pow_right (by decide) (by omega)
    refine ⟨le_refl _, shorter, ⟨_, unit ▸ rounds, ?_⟩, ?_⟩
    · rw [Scientific.value, unit, shifted]
      push_cast
      ring
    · rw [Nat.cast_mul] at rounds
      have coarser := RoundsTo.coarser (by positivity) rounds
      have again := @roundAt_rounds numerator denominator positive (exponent + 1 - places + 1)
      rw [shifted] at again
      exact_mod_cast again.unique (by positivity) coarser
  · refine ⟨least, ?_, ⟨_, unit ▸ rounds, ?_⟩, rfl⟩
    · dsimp only
      omega
    · rw [Scientific.value, unit]
      push_cast
      rfl

end DistinctCount.Decimal
