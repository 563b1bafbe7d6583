import DistinctCount.Proofs.DecimalNumerals
import DistinctCount.Proofs.DecimalRounding
import DistinctCount.Proofs.DoubleBits

/-! The text of a double is exact. It is a numeral for the double rounded to the digits that
were asked for, in the notation that the rounded number calls for, and it can be read as no
other numeral. -/
namespace DistinctCount.Decimal

/-- The text of a ratio is that of the ratio rounded to significant digits. The exponent of
the rounded number decides on the notation. -/
theorem ratioText_writes {places numerator denominator : Nat} (some : 0 < numerator)
    (positive : 0 < denominator) (digits : 0 < places) :
    ∃ n : Numeral, n.Writes ((round places numerator denominator).value places)
        (ratioText places numerator denominator) ∧
      (n.power.isSome = true ↔ (round places numerator denominator).exponent < -4 ∨
        (places : ℤ) ≤ (round places numerator denominator).exponent) ∧
      ∀ power ∈ n.power, 2 ≤ power.digits.length ∧ n.whole.length = 1 := by
  have rounds := round_rounds some positive digits
  simp only [ratioText]
  generalize round places numerator denominator = rounded at *
  split_ifs with scientific
  · obtain ⟨n, writes, power, one⟩ :=
      scientificText_writes digits rounds.low rounds.high rounded.exponent
    refine ⟨n, writes, iff_of_true (by rw [power]; rfl) scientific, fun other member => ?_⟩
    rw [power] at member
    cases member
    exact ⟨(exponentDigits_spec _).2.2, one⟩
  · -- The position of the last digit is that of the rounded number, whatever digits the
    -- ratio starts with.
    obtain ⟨n, writes, power⟩ := positionalText_writes
      ((places : ℤ) - 1 - rounded.exponent).toNat numerator denominator
    have last : -((((places : ℤ) - 1 - rounded.exponent).toNat : ℕ) : ℤ) =
        rounded.exponent - places + 1 := by omega
    rw [last, rounds.again] at writes
    refine ⟨n, writes, iff_of_false (by rw [power]; decide) scientific, fun other member => ?_⟩
    rw [power] at member
    cases member

namespace Numeral

def signed (n : Numeral) (negative : Bool) : Numeral := { n with negative := negative }

theorem Writes.text_signed {n : Numeral} {x : ℚ} {text : List Char} (writes : n.Writes x text)
    (negative : Bool) : (n.signed negative).text = signText negative ++ text := by
  rw [writes.text_eq, Numeral.text, Numeral.text, writes.positive]
  rfl

theorem Writes.value_signed {n : Numeral} {x : ℚ} {text : List Char} (writes : n.Writes x text)
    (negative : Bool) : (n.signed negative).value = if negative then -x else x := by
  rw [← writes.value_eq, value, value, writes.positive]
  cases negative <;> simp [signed, powerValue]

end Numeral

/-- The text of a finite double other than zero is that of its ratio behind its sign. -/
theorem toList_significant {places : Nat} (digits : 0 < places) {x : Float}
    (ordinary : exponentField x.toBits ≠ 2047) (nonzero : (Magnitude.ofBits x.toBits).mantissa ≠ 0) :
    (significant places x).toList = Numeral.signText (isNegative x.toBits) ++
      ratioText places (Magnitude.ofBits x.toBits).numerator
        (Magnitude.ofBits x.toBits).denominator := by
  have asked : max places 1 = places := max_eq_left digits
  rw [significant, String.toList_ofList, bitsText, if_neg ordinary, if_neg nonzero, asked]
  rfl

/-- The text of a finite double that is not zero. It is that of exactly one numeral, which
stands for the double rounded to the digits asked for, a half going to the even neighbour.
The numeral has a power of ten exactly where the exponent of the rounded number is below -4
or not below the count of digits; that power has a sign and two digits at least, behind a
single digit before the point. A fraction does not end with a zero, and without a fraction
there is no point. -/
theorem significant_exact {places : Nat} (digits : 1 ≤ places) {x : Float} {v : ℚ}
    (exact : exactValue x = some v) (nonzero : v ≠ 0) :
    ∃ n : Numeral, (significant places x).toList = n.text ∧
      (∀ m : Numeral, m.text = n.text → m = n) ∧
      IsRounded places v n.value ∧
      (n.power.isSome = true ↔
        Int.log 10 |n.value| < -4 ∨ (places : ℤ) ≤ Int.log 10 |n.value|) ∧
      (∀ power ∈ n.power, 2 ≤ power.digits.length ∧ n.whole.length = 1) ∧
      n.fraction.getLast? ≠ some '0' := by
  rw [exactValue_eq, Option.ite_none_left_eq_some, Option.some_inj] at exact
  obtain ⟨ordinary, rfl⟩ := exact
  have mantissa : (Magnitude.ofBits x.toBits).mantissa ≠ 0 := by
    intro zero
    simp [Magnitude.value, zero] at nonzero
  have numerator : 0 < (Magnitude.ofBits x.toBits).numerator :=
    Nat.mul_pos (Nat.pos_of_ne_zero mantissa) (by positivity)
  have denominator : 0 < (Magnitude.ofBits x.toBits).denominator := Nat.two_pow_pos _
  obtain ⟨n, writes, scientific, power⟩ := ratioText_writes numerator denominator digits
  obtain ⟨low, high, rounded, _⟩ := round_rounds numerator denominator digits
  rw [Magnitude.ratio_eq] at rounded
  have value := writes.value_signed (isNegative x.toBits)
  have exponent := Scientific.log_value digits low high
  generalize round places _ _ = s at *
  have leading : Int.log 10 |(n.signed (isNegative x.toBits)).value| = s.exponent := by
    have positive : 0 ≤ s.value places := mul_nonneg (Nat.cast_nonneg _) (zpow_nonneg (by norm_num) _)
    rw [value, apply_ite abs, abs_neg, ite_self, abs_of_nonneg positive, exponent]
  refine ⟨n.signed (isNegative x.toBits), ?_, fun m same => Numeral.text_injective same, ?_, ?_,
    power, writes.last⟩
  · rw [toList_significant digits ordinary mantissa, writes.text_signed]
  · rw [value]
    split
    · rw [neg_one_mul]
      exact rounded.neg
    · rw [one_mul]
      exact rounded
  · rw [leading]
    exact scientific

/-- Between nine and ten the even neighbour is ten, which has one digit more than asked for. -/
theorem significant_exact_tie :
    exactValue (Float.ofBits 0xC023000000000000) = some (-19 / 2) ∧
      significant 1 (Float.ofBits 0xC023000000000000) = "-1e+01" ∧ IsRounded 1 (-19 / 2) (-10) := by
  have exact : exactValue (Float.ofBits 0xC023000000000000) = some (-19 / 2) := by decide +kernel
  have text : significant 1 (Float.ofBits 0xC023000000000000) = "-1e+01" := by decide +kernel
  obtain ⟨n, written, unique, rounded, _⟩ :=
    @significant_exact 1 (by decide) _ _ exact (by norm_num)
  refine ⟨exact, text, ?_⟩
  have ten := unique ⟨true, ['1'], [], some ⟨false, ['0', '1'], by decide⟩, by decide, by decide,
    by decide⟩ (by rw [← written, text]; decide +kernel)
  rw [← ten] at rounded
  convert rounded using 1
  decide +kernel

end DistinctCount.Decimal
