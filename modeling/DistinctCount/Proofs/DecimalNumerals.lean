import DistinctCount.Decimal.Significant
import Mathlib.Algebra.Order.Field.Rat
import Mathlib.Data.List.TakeWhile
import Mathlib.Tactic.NormNum
import Mathlib.Tactic.Ring

/-! Decimal numerals. A numeral has digits before the point and, where it is written with
one, behind it, and it may end with a power of ten. Its text can be read in no other way,
so a text stands for one number at the most. -/
namespace DistinctCount.Decimal

def AreDigits (text : List Char) : Prop := ∀ char ∈ text, char.isDigit = true

instance (text : List Char) : Decidable (AreDigits text) :=
  List.decidableBAll (fun char : Char => char.isDigit = true) text

theorem areDigits_append {a b : List Char} : AreDigits (a ++ b) ↔ AreDigits a ∧ AreDigits b := by
  simp only [AreDigits, List.mem_append, or_imp, forall_and]

theorem areDigits_toDigits (n : Nat) : AreDigits (Nat.toDigits 10 n) :=
  fun _ member => Nat.isDigit_of_mem_toDigits (by decide) (by decide) member

theorem areDigits_zeros (count : Nat) : AreDigits (List.replicate count '0') := by
  intro char member
  rw [List.eq_of_mem_replicate member]
  rfl

def digitsValue (digits : List Char) : Nat := Nat.ofDigitChars 10 digits 0

@[simp] theorem digitsValue_toDigits (n : Nat) : digitsValue (Nat.toDigits 10 n) = n :=
  Nat.ofDigitChars_ten_toDigits

theorem digitsValue_append_zeros (digits : List Char) (count : Nat) :
    digitsValue (digits ++ List.replicate count '0') = digitsValue digits * 10 ^ count := by
  rw [digitsValue, Nat.ofDigitChars_append, Nat.ofDigitChars_replicate_zero, Nat.mul_comm]
  rfl

theorem digitsValue_zeros_append (count : Nat) (digits : List Char) :
    digitsValue (List.replicate count '0' ++ digits) = digitsValue digits := by
  rw [digitsValue, Nat.ofDigitChars_append, Nat.ofDigitChars_replicate_zero, Nat.mul_zero]
  rfl

/-- The power of ten of a numeral: a sign, which is always written, and digits. -/
@[ext] structure Power where
  negative : Bool
  digits : List Char
  areDigits : AreDigits digits

namespace Power

def value (p : Power) : ℤ := if p.negative then -digitsValue p.digits else digitsValue p.digits

def text (p : Power) : List Char := 'e' :: (if p.negative then '-' else '+') :: p.digits

theorem text_injective {p q : Power} (same : p.text = q.text) : p = q := by
  obtain ⟨_, digits, _⟩ := p
  obtain ⟨_, _, _⟩ := q
  simp only [text, List.cons.injEq, true_and] at same
  obtain ⟨sign, rfl⟩ := same
  ext1
  · revert sign
    split <;> split <;> simp_all
  · rfl

end Power

@[ext] structure Numeral where
  negative : Bool
  /-- The digits before the point. -/
  whole : List Char
  /-- The digits behind the point; without any there is no point. -/
  fraction : List Char
  power : Option Power
  some_digit : whole ≠ []
  whole_digits : AreDigits whole
  fraction_digits : AreDigits fraction

namespace Numeral

def powerValue (n : Numeral) : ℤ := (n.power.map Power.value).getD 0

/-- The number that a numeral stands for. The point is as many places before the end of
the digits as there are digits behind it. -/
def value (n : Numeral) : ℚ :=
  (if n.negative then -1 else 1) * digitsValue (n.whole ++ n.fraction) *
    10 ^ (n.powerValue - n.fraction.length)

def pointText (fraction : List Char) : List Char := if fraction = [] then [] else '.' :: fraction

def powerText (power : Option Power) : List Char := (power.map Power.text).getD []

def signText (negative : Bool) : List Char := if negative then ['-'] else []

def text (n : Numeral) : List Char :=
  signText n.negative ++ (n.whole ++ (pointText n.fraction ++ powerText n.power))

/-- Where digits end can be seen if no digit follows them. -/
theorem digits_unique {a b s t : List Char} (digitsA : AreDigits a) (digitsB : AreDigits b)
    (endA : ∀ char ∈ s.head?, char.isDigit = false) (endB : ∀ char ∈ t.head?, char.isDigit = false)
    (same : a ++ s = b ++ t) : a = b ∧ s = t := by
  have stops {rest : List Char} (stop : ∀ char ∈ rest.head?, char.isDigit = false) :
      rest.takeWhile Char.isDigit = [] := by
    cases rest with
    | nil => rfl
    | cons char rest => simp [stop char rfl]
  have taken := congrArg (List.takeWhile Char.isDigit) same
  rw [List.takeWhile_append_of_pos digitsA, List.takeWhile_append_of_pos digitsB, stops endA,
    stops endB, List.append_nil, List.append_nil] at taken
  subst taken
  exact ⟨rfl, List.append_cancel_left same⟩

theorem head_powerText (power : Option Power) :
    ∀ char ∈ (powerText power).head?, char = 'e' := by
  cases power <;> simp [powerText, Power.text]

theorem head_pointText (fraction : List Char) (power : Option Power) :
    ∀ char ∈ (pointText fraction ++ powerText power).head?, char = '.' ∨ char = 'e' := by
  intro char first
  by_cases none : fraction = []
  · simp only [pointText, none, if_true, List.nil_append] at first
    exact Or.inr (head_powerText power char first)
  · simp [pointText, none] at first
    exact Or.inl first.symm

theorem powerText_injective {a b : Option Power} (same : powerText a = powerText b) : a = b := by
  cases a with
  | none =>
    cases b with
    | none => rfl
    | some b => simp [powerText, Power.text] at same
  | some a =>
    cases b with
    | none => simp [powerText, Power.text] at same
    | some b => rw [Power.text_injective same]

theorem pointText_unique {a b : List Char} {p q : Option Power} (digitsA : AreDigits a)
    (digitsB : AreDigits b) (same : pointText a ++ powerText p = pointText b ++ powerText q) :
    a = b ∧ p = q := by
  have ends (power : Option Power) : ∀ char ∈ (powerText power).head?, char.isDigit = false := by
    intro char first
    rw [head_powerText power char first]
    rfl
  by_cases noneA : a = [] <;> by_cases noneB : b = [] <;>
    simp only [pointText, noneA, noneB, if_true, if_false, List.nil_append, List.cons_append] at same
  · exact ⟨noneA.trans noneB.symm, powerText_injective same⟩
  · have first := head_powerText p '.' (by simp [same])
    contradiction
  · have first := head_powerText q '.' (by simp [← same])
    contradiction
  · obtain ⟨digits, rest⟩ := digits_unique digitsA digitsB (ends p) (ends q) (List.cons.inj same).2
    exact ⟨digits, powerText_injective rest⟩

theorem text_ne_minus (n : Numeral) (rest other : List Char) : '-' :: rest ≠ n.whole ++ other := by
  cases digits : n.whole with
  | nil => exact absurd digits n.some_digit
  | cons char more =>
    intro same
    have first : '-'.isDigit = true :=
      (List.cons.inj same).1 ▸ n.whole_digits char (digits ▸ List.mem_cons_self)
    contradiction

/-- A text is that of one numeral at the most. -/
theorem text_injective {n m : Numeral} (same : n.text = m.text) : n = m := by
  have ends (n : Numeral) :
      ∀ char ∈ (pointText n.fraction ++ powerText n.power).head?, char.isDigit = false := by
    intro char first
    rcases head_pointText n.fraction n.power char first with rfl | rfl <;> rfl
  have sign : n.negative = m.negative := by
    cases minusN : n.negative <;> cases minusM : m.negative <;>
      simp only [text, signText, minusN, minusM, if_true, Bool.false_eq_true, if_false,
        List.nil_append, List.cons_append] at same
    · rfl
    · exact absurd same.symm (text_ne_minus n _ _)
    · exact absurd same (text_ne_minus m _ _)
    · rfl
  rw [text, text, sign] at same
  obtain ⟨whole, rest⟩ := digits_unique n.whole_digits m.whole_digits (ends n) (ends m)
    (List.append_cancel_left same)
  obtain ⟨fraction, power⟩ := pointText_unique n.fraction_digits m.fraction_digits rest
  exact Numeral.ext sign whole fraction power

end Numeral

/-! ### Trailing zeros -/

theorem trimZeros_spec (digits : List Char) :
    (∃ count, digits = trimZeros digits ++ List.replicate count '0') ∧
      (trimZeros digits).getLast? ≠ some '0' := by
  constructor
  · have split := List.takeWhile_append_dropWhile (p := (· == '0')) (l := digits.reverse)
    have zeros : digits.reverse.takeWhile (· == '0') =
        List.replicate (digits.reverse.takeWhile (· == '0')).length '0' := by
      rw [List.eq_replicate_iff]
      exact ⟨rfl, fun char member => eq_of_beq (List.mem_takeWhile_imp (p := (· == '0')) member)⟩
    refine ⟨(digits.reverse.takeWhile (· == '0')).length, ?_⟩
    rw [zeros] at split
    have whole := congrArg List.reverse split
    rw [List.reverse_append, List.reverse_reverse, List.reverse_replicate] at whole
    exact whole.symm
  · rw [trimZeros, List.getLast?_reverse]
    intro first
    have stop := List.head?_dropWhile_not (· == '0') digits.reverse
    rw [first] at stop
    contradiction

theorem areDigits_trimZeros {digits : List Char} (areDigits : AreDigits digits) :
    AreDigits (trimZeros digits) := by
  obtain ⟨⟨count, split⟩, _⟩ := trimZeros_spec digits
  rw [split] at areDigits
  exact (areDigits_append.mp areDigits).1

theorem pointed_eq (whole fraction : List Char) :
    pointed whole fraction = whole ++ Numeral.pointText (trimZeros fraction) := by
  unfold pointed Numeral.pointText
  split
  · rename_i none
    rw [none, if_pos rfl, List.append_nil]
  · rename_i some
    rw [if_neg some]

/-- The numeral of digits with a point among them, trailing zeros of the fraction left out. -/
def trimmed (whole fraction : List Char) (power : Option Power) (some_digit : whole ≠ [])
    (areDigits : AreDigits (whole ++ fraction)) : Numeral where
  negative := false
  whole := whole
  fraction := trimZeros fraction
  power := power
  some_digit := some_digit
  whole_digits := (areDigits_append.mp areDigits).1
  fraction_digits := areDigits_trimZeros (areDigits_append.mp areDigits).2

/-- Some text writes a number as this numeral, without a sign and without a zero at the
end of a fraction. -/
structure Numeral.Writes (n : Numeral) (x : ℚ) (text : List Char) : Prop where
  text_eq : text = n.text
  positive : n.negative = false
  value_eq : n.value = x
  last : n.fraction.getLast? ≠ some '0'

/-- Digits with a point among them are written as they are, but for zeros at the end of the
fraction, which do not count. -/
theorem pointed_writes {whole fraction digits : List Char} (power : Option Power)
    (some_digit : whole ≠ []) (areDigits : AreDigits digits) (split : whole ++ fraction = digits) :
    ∃ n : Numeral, n.Writes
        (digitsValue digits * 10 ^ ((power.map Power.value).getD 0 - (fraction.length : ℤ)))
        (pointed whole fraction ++ Numeral.powerText power) ∧
      n.power = power ∧ n.whole = whole := by
  subst split
  obtain ⟨⟨count, zeros⟩, last⟩ := trimZeros_spec fraction
  have digits : digitsValue (whole ++ fraction) =
      digitsValue (whole ++ trimZeros fraction) * 10 ^ count := by
    conv_lhs => rw [zeros, ← List.append_assoc, digitsValue_append_zeros]
  have length : fraction.length = (trimZeros fraction).length + count := by
    conv_lhs => rw [zeros, List.length_append, List.length_replicate]
  have shift (places : ℤ) : (10 : ℚ) ^ count * 10 ^ (places - (fraction.length : ℤ)) =
      10 ^ (places - ((trimZeros fraction).length : ℤ)) := by
    rw [← zpow_natCast, ← zpow_add₀ (by norm_num), length]
    congr 1
    push_cast
    ring
  refine ⟨trimmed whole fraction power some_digit areDigits, ⟨?_, rfl, ?_, last⟩, rfl, rfl⟩
  · rw [pointed_eq, List.append_assoc]
    rfl
  · simp only [Numeral.value, Numeral.powerValue, trimmed, digits, Bool.false_eq_true, if_false,
      one_mul]
    rw [← shift]
    push_cast
    ring

/-! ### The two notations -/

theorem length_toDigits {places n : Nat} (positive : 0 < places) (low : 10 ^ (places - 1) ≤ n)
    (high : n < 10 ^ places) : (Nat.toDigits 10 n).length = places := by
  have most := (Nat.length_toDigits_le_iff (by decide : 1 < 10) positive).mpr high
  by_contra different
  rcases Nat.lt_or_ge 1 places with several | one
  · have fewer := (Nat.length_toDigits_le_iff (n := n) (by decide : 1 < 10)
      (by omega : 0 < places - 1)).mp (by omega)
    omega
  · have := @Nat.length_toDigits_pos 10 n
    omega

theorem exponentDigits_spec (n : Nat) :
    AreDigits (exponentDigits n) ∧ digitsValue (exponentDigits n) = n ∧
      2 ≤ (exponentDigits n).length := by
  unfold exponentDigits
  have positive := @Nat.length_toDigits_pos 10 n
  split
  · rename_i small
    refine ⟨?_, ?_, by rw [List.length_cons]; omega⟩
    · exact areDigits_append.mpr ⟨areDigits_zeros 1, areDigits_toDigits n⟩
    · exact (digitsValue_zeros_append 1 _).trans (digitsValue_toDigits n)
  · rename_i large
    refine ⟨areDigits_toDigits n, digitsValue_toDigits n, ?_⟩
    by_contra short
    have := (Nat.length_toDigits_le_iff (n := n) (by decide : 1 < 10) (by decide : 0 < 1)).mp (by omega)
    omega

def powerOf (exponent : ℤ) : Power :=
  ⟨exponent < 0, exponentDigits exponent.natAbs, (exponentDigits_spec _).1⟩

theorem value_powerOf (exponent : ℤ) : (powerOf exponent).value = exponent := by
  have digits := (exponentDigits_spec exponent.natAbs).2.1
  simp only [Power.value, powerOf, digits, decide_eq_true_eq]
  split <;> omega

/-- A coefficient in scientific notation: one digit stands before the point. -/
theorem scientificText_writes {places coefficient : Nat} (positive : 0 < places)
    (low : 10 ^ (places - 1) ≤ coefficient) (high : coefficient < 10 ^ places) (exponent : ℤ) :
    ∃ n : Numeral, n.Writes (coefficient * 10 ^ (exponent - places + 1))
        (scientificText (Nat.toDigits 10 coefficient) exponent) ∧
      n.power = some (powerOf exponent) ∧ n.whole.length = 1 := by
  have length := length_toDigits positive low high
  have areDigits := areDigits_toDigits coefficient
  have value := digitsValue_toDigits coefficient
  generalize Nat.toDigits 10 coefficient = digits at *
  have one : (digits.take 1).length = 1 := List.length_take_of_le (by omega)
  obtain ⟨n, writes, power, whole⟩ := pointed_writes (some (powerOf exponent))
    (List.ne_nil_of_length_pos (by omega)) areDigits (List.take_append_drop 1 digits)
  have last : exponent - ((places - 1 : ℕ) : ℤ) = exponent - places + 1 := by omega
  rw [value, Option.map_some, Option.getD_some, value_powerOf, List.length_drop, length, last] at writes
  refine ⟨n, ?_, power, whole ▸ one⟩
  convert writes using 1
  simp [scientificText, Numeral.powerText, Power.text, powerOf]

theorem leftpad_digits (count n : Nat) :
    AreDigits ((Nat.toDigits 10 n).leftpad count '0') ∧
      digitsValue ((Nat.toDigits 10 n).leftpad count '0') = n ∧
      count ≤ ((Nat.toDigits 10 n).leftpad count '0').length := by
  have padded : (Nat.toDigits 10 n).leftpad count '0' =
      List.replicate (count - (Nat.toDigits 10 n).length) '0' ++ Nat.toDigits 10 n := rfl
  rw [padded]
  refine ⟨areDigits_append.mpr ⟨areDigits_zeros _, areDigits_toDigits n⟩, ?_, ?_⟩
  · rw [digitsValue_zeros_append, digitsValue_toDigits]
  · rw [List.length_append, List.length_replicate]
    omega

/-- Positional notation of a ratio rounded to some digits behind the point. -/
theorem positionalText_writes (decimals numerator denominator : Nat) :
    ∃ n : Numeral, n.Writes (roundAt numerator denominator (-decimals) * 10 ^ (-(decimals : ℤ)))
        (positionalText decimals numerator denominator) ∧ n.power = none := by
  simp only [positionalText]
  obtain ⟨areDigits, value, length⟩ :=
    leftpad_digits (decimals + 1) (roundAt numerator denominator (-decimals))
  generalize (Nat.toDigits 10 _).leftpad (decimals + 1) '0' = digits at *
  obtain ⟨n, writes, power, _⟩ := pointed_writes none
    (List.ne_nil_of_length_pos (by rw [List.length_take]; omega)) areDigits
    (List.take_append_drop (digits.length - decimals) digits)
  have behind : (digits.drop (digits.length - decimals)).length = decimals := by
    rw [List.length_drop]
    omega
  rw [value, behind, Option.map_none, Option.getD_none, zero_sub, Numeral.powerText, Option.map_none,
    Option.getD_none, List.append_nil] at writes
  exact ⟨n, writes, power⟩

end DistinctCount.Decimal
