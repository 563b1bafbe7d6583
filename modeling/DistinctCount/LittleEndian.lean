import DistinctCount.Powers

/-! Numbers as base-256 digits, least significant byte first. Every multi-byte
field of a hash block or of an image is written this way. -/
namespace DistinctCount.LittleEndian

/-- The number whose digits are `bytes`. -/
def toNat : List UInt8 → Nat
  | [] => 0
  | byte :: rest => byte.toNat + 256 * toNat rest

/-- The `width` low digits of `n`; higher digits are dropped. -/
def ofNat : (width : Nat) → (n : Nat) → List UInt8
  | 0, _ => []
  | width + 1, n => UInt8.ofNat n :: ofNat width (n / 256)

@[simp] theorem length_ofNat (width n : Nat) : (ofNat width n).length = width := by
  induction width generalizing n with
  | zero => rfl
  | succ width ih => simp [ofNat, ih]

theorem toNat_ofNat (width n : Nat) : toNat (ofNat width n) = n % 256 ^ width := by
  induction width generalizing n with
  | zero => simp [ofNat, toNat, Nat.mod_one]
  | succ width ih =>
    have power : 256 ^ (width + 1) = 256 * 256 ^ width := by rw [Nat.pow_succ, Nat.mul_comm]
    simp only [ofNat, toNat, ih, UInt8.toNat_ofNat', power, Nat.mod_mul]

theorem ofNat_toNat (bytes : List UInt8) : ofNat bytes.length (toNat bytes) = bytes := by
  induction bytes with
  | nil => rfl
  | cons byte rest ih =>
    have small : byte.toNat < 256 := byte.toNat_lt
    have head : UInt8.ofNat (byte.toNat + 256 * toNat rest) = byte := by
      apply UInt8.toNat.inj
      simp only [UInt8.toNat_ofNat']
      omega
    have tail : (byte.toNat + 256 * toNat rest) / 256 = toNat rest := by omega
    simp only [List.length_cons, ofNat, toNat, head, tail, ih]

theorem toNat_lt (bytes : List UInt8) : toNat bytes < 256 ^ bytes.length := by
  induction bytes with
  | nil => decide
  | cons byte rest ih =>
    have small : byte.toNat < 256 := byte.toNat_lt
    rw [toNat, List.length_cons, Nat.pow_succ']
    omega

theorem toNat_append (low high : List UInt8) :
    toNat (low ++ high) = toNat low + 256 ^ low.length * toNat high := by
  induction low with
  | nil => simp [toNat]
  | cons byte rest ih =>
    simp only [List.cons_append, toNat, ih, List.length_cons, Nat.pow_succ', Nat.mul_add,
      Nat.mul_assoc, Nat.add_assoc]

/-- The two bytes of a 16-bit word. -/
def word16 (x : UInt16) : List UInt8 := ofNat 2 x.toNat

/-- The four bytes of a 32-bit word. -/
def word32 (x : UInt32) : List UInt8 := ofNat 4 x.toNat

/-- The eight bytes of a 64-bit word. -/
def word64 (x : UInt64) : List UInt8 := ofNat 8 x.toNat

end DistinctCount.LittleEndian
