import DistinctCount.Image.Preamble
import DistinctCount.Proofs.DoubleBits
import DistinctCount.Proofs.Results

/-! Readers of fields. A reader that has taken some bytes gives the same result whatever
follows them, and a cut anywhere in them is reported with the field in which it falls. -/
namespace DistinctCount

/-- Fields of an image one behind the other, each with its width in bytes. -/
abbrev Fields := List (ImagePart × Nat)

namespace Fields

def width (fields : Fields) : Nat := (fields.map Prod.snd).sum

def at? : Fields → (position : Nat) → Option ImagePart
  | [], _ => none
  | (part, width) :: rest, position =>
    if position < width then some part else at? rest (position - width)

variable {fields later : Fields} {position : Nat}

@[simp] theorem width_nil : width [] = 0 := rfl

@[simp] theorem width_cons (field : ImagePart × Nat) (rest : Fields) :
    width (field :: rest) = field.2 + width rest := rfl

@[simp] theorem width_append : width (fields ++ later) = fields.width + later.width := by
  simp [width]

theorem exists_at?_iff : (∃ part, fields.at? position = some part) ↔ position < fields.width := by
  induction fields generalizing position with
  | nil => simp [at?]
  | cons field rest ih =>
    rw [at?, width_cons]
    split
    · simp only [Option.some.injEq, exists_eq', true_iff]
      omega
    · rw [ih]
      omega

theorem at?_append :
    at? (fields ++ later) position =
      if position < fields.width then fields.at? position else later.at? (position - fields.width) := by
  induction fields generalizing position with
  | nil => simp
  | cons field rest ih =>
    simp only [List.cons_append, at?, ih, width_cons]
    split_ifs <;> first | rfl | omega | rw [Nat.sub_sub]

end Fields

abbrev Reader (α : Type) := List UInt8 → Except ImageError (α × List UInt8)

/-- Some bytes are what a reader takes for a result. Any bytes may follow them, and if they
are cut short the field that is missing is named. -/
structure Reads {α : Type} (read : Reader α) (fields : Fields) (used : List UInt8) (a : α) : Prop where
  length : used.length = fields.width
  whole : ∀ more, read (used ++ more) = .ok (a, more)
  short : ∀ position part, fields.at? position = some part →
    read (used.take position) = .error (.truncated part)

namespace Reads

variable {α β : Type} {read : Reader α} {fields later : Fields} {used next : List UInt8} {a : α} {b : β}

/-- A cut falls into what the reader takes or into what follows. -/
theorem take_append (reads : Reads read fields used a) (next : List UInt8) {position : Nat}
    {part : ImagePart} (found : Fields.at? (fields ++ later) position = some part) :
    read ((used ++ next).take position) = .error (.truncated part) ∨
      ∃ left, later.at? left = some part ∧
        read ((used ++ next).take position) = .ok (a, next.take left) := by
  rw [Fields.at?_append, ← reads.length] at found
  rw [List.take_append]
  split at found
  · rename_i before
    rw [Nat.sub_eq_zero_of_le (Nat.le_of_lt before), List.take_zero, List.append_nil]
    exact Or.inl (reads.short position part found)
  · rename_i behind
    rw [List.take_of_length_le (Nat.le_of_not_lt behind)]
    exact Or.inr ⟨_, found, reads.whole _⟩

theorem pure (a : α) : Reads (fun bytes => Pure.pure (a, bytes)) [] [] a :=
  ⟨rfl, fun _ => rfl, nofun⟩

theorem of_eq {fields' : Fields} {used' : List UInt8} {a' : α} (reads : Reads read fields used a)
    (layout : fields = fields') (bytes : used = used') (result : a = a') :
    Reads read fields' used' a' := by
  subst layout bytes result
  exact reads

theorem map {f : α → β} (reads : Reads read fields used a) :
    Reads (fun bytes => read bytes >>= fun result => Pure.pure (f result.1, result.2)) fields used (f a) where
  length := reads.length
  whole more := by rw [reads.whole, ok_bind]; rfl
  short position part found := by rw [reads.short position part found]; rfl

theorem bind {rest : α × List UInt8 → Except ImageError (β × List UInt8)}
    (first : Reads read fields used a) (second : Reads (fun bytes => rest (a, bytes)) later next b) :
    Reads (fun bytes => read bytes >>= rest) (fields ++ later) (used ++ next) b where
  length := by rw [List.length_append, first.length, second.length, Fields.width_append]
  whole more := by rw [List.append_assoc, first.whole, ok_bind, second.whole]
  short position part found := by
    rcases first.take_append next found with cut | ⟨left, inside, passed⟩
    · rw [cut]
      rfl
    · rw [passed, ok_bind, second.short left part inside]

theorem step {known : Except ImageError α} {rest : List UInt8 → α → Except ImageError (β × List UInt8)}
    (passes : known = .ok a) (reads : Reads (fun bytes => rest bytes a) fields used b) :
    Reads (fun bytes => known >>= rest bytes) fields used b where
  length := reads.length
  whole more := by rw [passes, ok_bind, reads.whole]
  short position part found := by rw [passes, ok_bind, reads.short position part found]

end Reads

namespace Preamble

variable {part : ImagePart} {bytes rest : List UInt8}

/-! ### Single fields -/

theorem readNat_append (width : Nat) (part : ImagePart) (n : Nat) (rest : List UInt8) :
    readNat width part (LittleEndian.ofNat width n ++ rest) = .ok (n % 256 ^ width, rest) := by
  have length := LittleEndian.length_ofNat width n
  have front : (LittleEndian.ofNat width n ++ rest).take width = LittleEndian.ofNat width n := by
    rw [List.take_left' length]
  rw [readNat, front, if_neg (by omega), LittleEndian.toNat_ofNat, List.drop_left' length]

theorem readNat_reads (width : Nat) (part : ImagePart) {n : Nat} (small : n < 256 ^ width) :
    Reads (readNat width part) [(part, width)] (LittleEndian.ofNat width n) n where
  length := LittleEndian.length_ofNat width n
  whole more := by rw [readNat_append, Nat.mod_eq_of_lt small]
  short position found named := by
    simp only [Fields.at?] at named
    split at named
    · rename_i inside
      cases named
      have few : (((LittleEndian.ofNat width n).take position).take width).length < width := by
        rw [List.length_take, List.length_take]
        omega
      rw [readNat, if_pos few]
    · contradiction

theorem readNat_sound {width n : Nat} (read : readNat width part bytes = .ok (n, rest)) :
    n < 256 ^ width ∧ bytes = LittleEndian.ofNat width n ++ rest := by
  rw [readNat] at read
  split at read
  · contradiction
  · rename_i enough
    cases read
    have length : (bytes.take width).length = width :=
      Nat.le_antisymm (List.length_take_le ..) (Nat.le_of_not_lt enough)
    have digits := LittleEndian.ofNat_toNat (bytes.take width)
    have small := LittleEndian.toNat_lt (bytes.take width)
    rw [length] at digits small
    exact ⟨small, by rw [digits, List.take_append_drop]⟩

theorem readByte_reads (part : ImagePart) (byte : UInt8) :
    Reads (readByte part) [(part, 1)] [byte] byte where
  length := rfl
  whole _ := rfl
  short position found named := by
    obtain rfl : position = 0 := by
      have := Fields.exists_at?_iff.mp ⟨found, named⟩
      simpa using this
    cases named
    rfl

theorem readByte_sound {byte : UInt8} (read : readByte part bytes = .ok (byte, rest)) :
    bytes = byte :: rest := by
  cases bytes <;> cases read
  rfl

theorem readWord_reads (part : ImagePart) (x : UInt32) :
    Reads (readWord part) [(part, 4)] (LittleEndian.word32 x) x := by
  have number := readNat_reads 4 part x.toNat_lt
  have word := number.map (f := UInt32.ofNat)
  rw [UInt32.ofNat_toNat] at word
  exact word

theorem readWord_sound {x : UInt32} (read : readWord part bytes = .ok (x, rest)) :
    bytes = LittleEndian.word32 x ++ rest := by
  obtain ⟨⟨n, _⟩, number, read⟩ := bind_eq_ok.mp read
  cases read
  obtain ⟨small, rfl⟩ := readNat_sound number
  rw [LittleEndian.word32, UInt32.toNat_ofNat_of_lt' small]

theorem readFloat_reads (part : ImagePart) (x : Float) :
    Reads (readFloat part) [(part, 8)] (LittleEndian.word64 x.toBits) x := by
  have number := readNat_reads 8 part x.toBits.toNat_lt
  have float := number.map (f := fun n => Float.ofBits (UInt64.ofNat n))
  rw [UInt64.ofNat_toNat, Float.ofBits_toBits] at float
  exact float

theorem readFloat_sound {x : Float} (read : readFloat part bytes = .ok (x, rest))
    (finite : x.isFinite = true) : bytes = LittleEndian.word64 x.toBits ++ rest := by
  obtain ⟨⟨n, _⟩, number, read⟩ := bind_eq_ok.mp read
  cases read
  obtain ⟨small, rfl⟩ := readNat_sound number
  rw [Decimal.toBits_ofBits finite, LittleEndian.word64, UInt64.toNat_ofNat_of_lt' small]

theorem readHip_reads (hip : Hip) :
    Reads readHip [(.kxp, 8), (.hip, 8)] (hipBytes hip) hip := by
  refine (readFloat_reads .kxp hip.kxp).bind ?_
  exact (readFloat_reads .hip hip.accumulated).map (f := Hip.mk hip.kxp)

theorem readHip_sound {hip : Hip} (read : readHip bytes = .ok (hip, rest))
    (finite : hip.kxp.isFinite = true ∧ hip.accumulated.isFinite = true) :
    bytes = hipBytes hip ++ rest := by
  obtain ⟨⟨kxp, _⟩, first, read⟩ := bind_eq_ok.mp read
  obtain ⟨⟨accumulated, _⟩, second, read⟩ := bind_eq_ok.mp read
  cases read
  rw [readFloat_sound first finite.1, readFloat_sound second finite.2, hipBytes, List.append_assoc]

theorem readIf_reads {α : Type} {present : Bool} {absent a : α} {read : Reader α} {fields : Fields}
    {used : List UInt8} (there : present = true → Reads read fields used a)
    (missing : present = false → a = absent) :
    Reads (readIf present absent read) (if present then fields else [])
      (if present then used else []) a := by
  cases present with
  | true => exact there rfl
  | false =>
    cases missing rfl
    exact Reads.pure absent

theorem readIf_absent {α : Type} {present : Bool} {absent a : α} {read : Reader α}
    (passed : readIf present absent read bytes = .ok (a, rest)) (missing : present = false) :
    a = absent := by
  cases missing
  cases passed
  rfl

theorem readIf_sound {α : Type} {present : Bool} {absent a : α} {read : Reader α}
    {used : List UInt8} (passed : readIf present absent read bytes = .ok (a, rest))
    (sound : present = true → read bytes = .ok (a, rest) → bytes = used ++ rest) :
    bytes = (if present then used else []) ++ rest := by
  cases present with
  | true => exact sound rfl passed
  | false =>
    cases passed
    rfl

end Preamble
end DistinctCount
