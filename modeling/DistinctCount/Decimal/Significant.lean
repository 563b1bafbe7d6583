import DistinctCount.Decimal.Rounding

/-! The text of a double with a given count of significant digits: trailing zeros
of the fraction are dropped, and scientific notation is used where the exponent is
below -4 or not below the count of digits. -/
namespace DistinctCount.Decimal

/-- The digits of a fraction without trailing zeros. -/
def trimZeros (digits : List Char) : List Char := (digits.reverse.dropWhile (· == '0')).reverse

/-- Whole part and fraction; a fraction of zeros leaves no point behind. -/
def pointed (whole fraction : List Char) : List Char :=
  match trimZeros fraction with
  | [] => whole
  | digits => whole ++ '.' :: digits

/-- At least two digits. -/
def exponentDigits (n : Nat) : List Char :=
  if n < 10 then '0' :: Nat.toDigits 10 n else Nat.toDigits 10 n

def scientificText (digits : List Char) (exponent : Int) : List Char :=
  pointed (digits.take 1) (digits.drop 1) ++
    'e' :: (if exponent < 0 then '-' else '+') :: exponentDigits exponent.natAbs

/-- The ratio rounded to `decimals` digits behind the point, with at least one digit
before it. -/
def positionalText (decimals numerator denominator : Nat) : List Char :=
  let units := roundAt numerator denominator (-decimals)
  let digits := (Nat.toDigits 10 units).leftpad (decimals + 1) '0'
  let whole := digits.length - decimals
  pointed (digits.take whole) (digits.drop whole)

/-- The text of a positive ratio rounded to `places` significant digits. The rounding
chooses the notation; the positional one rounds the ratio once more, where its last
digit then stands. -/
def ratioText (places numerator denominator : Nat) : List Char :=
  let rounded := round places numerator denominator
  if rounded.exponent < -4 ∨ (places : Int) ≤ rounded.exponent then
    scientificText (Nat.toDigits 10 rounded.coefficient) rounded.exponent
  else positionalText (places - 1 - rounded.exponent).toNat numerator denominator

/-- A finite double without its sign is `mantissa · 2 ^ (exponent - 1075)`. -/
structure Magnitude where
  mantissa : Nat
  exponent : Nat
deriving DecidableEq, Repr

def Magnitude.numerator (m : Magnitude) : Nat := m.mantissa * 2 ^ (m.exponent - 1075)

def Magnitude.denominator (m : Magnitude) : Nat := 2 ^ (1075 - m.exponent)

/-- The eleven exponent bits of a double; all ones stand for infinity and NaN. -/
def exponentField (bits : UInt64) : Nat := bits.toNat / 2 ^ 52 % 2 ^ 11

def fractionField (bits : UInt64) : Nat := bits.toNat % 2 ^ 52

def isNegative (bits : UInt64) : Bool := 2 ^ 63 ≤ bits.toNat

/-- The magnitude of a finite double. A subnormal number has no hidden bit and the
exponent of the smallest normal one. -/
def Magnitude.ofBits (bits : UInt64) : Magnitude :=
  if exponentField bits = 0 then ⟨fractionField bits, 1⟩
  else ⟨2 ^ 52 + fractionField bits, exponentField bits⟩

/-- The text of the double with these bits; either zero is written `0`. -/
def bitsText (places : Nat) (bits : UInt64) : List Char :=
  let sign := if isNegative bits then ['-'] else []
  if exponentField bits = 2047 then
    if fractionField bits = 0 then sign ++ ['i', 'n', 'f'] else ['N', 'a', 'N']
  else
    let magnitude := Magnitude.ofBits bits
    if magnitude.mantissa = 0 then ['0']
    else sign ++ ratioText (max places 1) magnitude.numerator magnitude.denominator

/-- The text of a double with `places` significant digits, at least one. -/
def significant (places : Nat) (x : Float) : String := String.ofList (bitsText places x.toBits)

end DistinctCount.Decimal
