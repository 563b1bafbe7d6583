import DistinctCount.Proofs.PrefixCodes

/-! A writer under any sequence of calls. Its words hold the bits of the calls one after
another and zeros up to the end of the last word. A reader sees just the bits from its
position on, so it undoes a call where the bits of that call start, wherever in a word
that is. -/
namespace DistinctCount

theorem Bits.ofWords_injective : Function.Injective ofWords := by
  intro a b same
  induction a generalizing b with
  | nil =>
    cases b with
    | nil => rfl
    | cons word rest =>
      have lengths := congrArg List.length same
      simp at lengths
  | cons word rest ih =>
    cases b with
    | nil =>
      have lengths := congrArg List.length same
      simp at lengths
    | cons other others =>
      obtain ⟨first, later⟩ := List.append_inj same (by simp)
      have number := congrArg toNat first
      rw [toNat_ofNat, toNat_ofNat, Nat.mod_eq_of_lt word.toNat_lt, Nat.mod_eq_of_lt other.toNat_lt]
        at number
      rw [UInt32.toNat_inj.mp number, ih later]

namespace BitWriter

inductive Call where
  | number (value count : Nat)
  | word (entry : CodeWord)
  | unary (value : Nat)
  | zeros (count : Nat)
deriving DecidableEq, Repr

namespace Call

/-- At most 32 bits, and a number with no others; in unary every number can be written. -/
def Fits : Call → Prop
  | .number value count => count ≤ 32 ∧ value < 2 ^ count
  | .word entry => entry.length ≤ 32 ∧ entry.bits < 2 ^ entry.length
  | .unary _ => True
  | .zeros count => count ≤ 32

instance : (call : Call) → Decidable call.Fits
  | .number _ _ | .word _ => inferInstanceAs (Decidable (_ ∧ _))
  | .unary _ => inferInstanceAs (Decidable True)
  | .zeros _ => inferInstanceAs (Decidable (_ ≤ _))

def bits : Call → List Bool
  | .number value count => Bits.ofNat count value
  | .word entry => entry.toList
  | .unary value => List.replicate value false ++ [true]
  | .zeros count => List.replicate count false

/-- A reader that stands where the bits of a call start gives back what was written and
moves behind it. A number in unary is read a byte at a time up to a limit, so it has to be
within that and seven more bits have to be there. -/
def ReadBack (r : BitReader) : Call → Prop
  | .number value count => r.read count = .ok (value, r.skip count)
  | .word entry => r.read entry.length = .ok (entry.bits, r.skip entry.length)
  | .unary value => ∀ limit, value ≤ limit → r.position + (value + 1) + 7 ≤ 32 * r.words.size →
      r.readUnary limit = .ok (value, r.skip (value + 1))
  | .zeros count => r.read count = .ok (0, r.skip count)

end Call

def call (w : BitWriter) : Call → BitWriter
  | .number value count => w.write value count
  | .word entry => w.writeWord entry
  | .unary value => w.writeUnary value
  | .zeros count => w.pad count

def callAll (calls : List Call) (w : BitWriter) : BitWriter := calls.foldl call w

variable {w : BitWriter} {calls : List Call}

theorem call_appends (sound : w.Sound) {call : Call} (fits : call.Fits) :
    w.Appends call.bits (w.call call) := by
  cases call with
  | number value count => exact write_appends sound fits.1 fits.2
  | word entry =>
    rw [Call.bits, CodeWord.toList_eq]
    exact write_appends sound fits.1 fits.2
  | unary value => exact writeUnary_appends sound value
  | zeros count => exact pad_appends sound fits

theorem callAll_appends (sound : w.Sound) (fits : ∀ call ∈ calls, call.Fits) :
    w.Appends (calls.flatMap Call.bits) (callAll calls w) := by
  induction calls generalizing w with
  | nil => exact Appends.refl sound
  | cons call rest ih =>
    obtain ⟨first, later⟩ := List.forall_mem_cons.mp fits
    have step := call_appends sound first
    rw [List.flatMap_cons]
    exact step.trans (ih step.sound later)

theorem finish_callAll (fits : ∀ call ∈ calls, call.Fits) :
    ∃ fill < 32, Bits.ofWords (callAll calls empty).finish.toList =
      calls.flatMap Call.bits ++ List.replicate fill false := by
  obtain ⟨sound, bits⟩ := callAll_appends empty_sound fits
  have written : (callAll calls empty).bits = calls.flatMap Call.bits := bits
  rw [← written]
  exact finish_bits sound

/-- No other words hold these bits with less than a word of zeros behind them. -/
theorem finish_callAll_iff (fits : ∀ call ∈ calls, call.Fits) (words : Array UInt32) :
    (callAll calls empty).finish = words ↔ ∃ fill < 32, Bits.ofWords words.toList =
      calls.flatMap Call.bits ++ List.replicate fill false := by
  obtain ⟨fill, short, bits⟩ := finish_callAll fits
  constructor
  · rintro rfl
    exact ⟨fill, short, bits⟩
  · rintro ⟨other, otherShort, otherBits⟩
    have length := congrArg List.length bits
    have otherLength := congrArg List.length otherBits
    rw [Bits.length_ofWords, List.length_append, List.length_replicate] at length otherLength
    obtain rfl : fill = other := by omega
    exact Array.toList_inj.mp (Bits.ofWords_injective (bits.trans otherBits.symm))

theorem readBack_of_rest {r : BitReader} {call : Call} {tail : List Bool} (fits : call.Fits)
    (rest : r.rest = call.bits ++ tail) : call.ReadBack r := by
  cases call with
  | number value count => exact (BitReader.read_eq fits.1 fits.2 rest).1
  | word entry =>
    rw [Call.bits, CodeWord.toList_eq] at rest
    exact (BitReader.read_eq fits.1 fits.2 rest).1
  | unary value =>
    intro limit within ahead
    rw [Call.bits, List.append_assoc, List.singleton_append] at rest
    have length := congrArg List.length rest
    rw [BitReader.rest, List.length_drop, Bits.length_ofWords, Array.length_toList,
      List.length_append, List.length_replicate, List.length_cons] at length
    exact (BitReader.readUnary_eq within (by omega) rest).1
  | zeros count =>
    rw [Call.bits, ← Bits.ofNat_zero] at rest
    exact (BitReader.read_eq fits (Nat.two_pow_pos count) rest).1

/-- Each call of a sequence is read back where its bits start. -/
theorem readBack_finish {before after : List Call} {call : Call}
    (fits : ∀ other ∈ before ++ call :: after, other.Fits) :
    call.ReadBack ⟨(callAll (before ++ call :: after) empty).finish,
      (before.flatMap Call.bits).length⟩ := by
  obtain ⟨fill, _, bits⟩ := finish_callAll fits
  apply readBack_of_rest (fits call (by simp))
  rw [BitReader.rest, bits, List.flatMap_append, List.append_assoc, List.drop_left,
    List.flatMap_cons, List.append_assoc]

end BitWriter

theorem PrefixCode.fits_word {code : PrefixCode} {symbols symbol : Nat}
    (readable : code.Readable symbols) (inside : symbol < symbols) :
    (BitWriter.Call.word (code.word symbol)).Fits := by
  obtain ⟨⟨_, within, small⟩, _⟩ := readable symbol inside
  exact ⟨by omega, small⟩

/-- A look ahead past the last word is refused. -/
theorem BitReader.peek_past {r : BitReader} {count : Nat} (some : 0 < count)
    (short : 32 * r.words.size < r.position + count) : r.peek count = .error (.truncated .bitStream) := by
  rw [peek, if_neg (by omega), if_pos short]

namespace BitWriter

/-- Bit streams are faithful. An empty writer after calls that fit has exactly the words with
the bits of the calls, least significant bit first, and less than a word of zeros behind
them; every word of a code fits. A look ahead from any position sees the bits from there on
or fails. So each call can be undone where its bits start. -/
theorem streams_faithful {calls : List Call} (fits : ∀ call ∈ calls, call.Fits) :
    (∀ words, (callAll calls empty).finish = words ↔ ∃ fill < 32, Bits.ofWords words.toList =
      calls.flatMap Call.bits ++ List.replicate fill false) ∧
    ((∀ symbol < 65, (Call.word (columnDeltaCode.word symbol)).Fits) ∧
      ∀ p coupons, ∀ byte < 256, (Call.word ((WindowCode.ofCount p coupons).word byte)).Fits) ∧
    (∀ (r : BitReader) (count : Nat), count ≤ 32 →
      (r.position + count ≤ 32 * r.words.size → r.peek count =
        .ok (Bits.toNat (((Bits.ofWords r.words.toList).drop r.position).take count))) ∧
      (0 < count → 32 * r.words.size < r.position + count →
        r.peek count = .error (.truncated .bitStream))) ∧
    ∀ before call after, calls = before ++ call :: after →
      call.ReadBack ⟨(callAll calls empty).finish, (before.flatMap Call.bits).length⟩ := by
  refine ⟨finish_callAll_iff fits, ⟨?_, ?_⟩, ?_, ?_⟩
  · intro symbol inside
    exact PrefixCode.fits_word columnDeltaCode_readable inside
  · intro p coupons byte inside
    exact PrefixCode.fits_word (WindowCode.ofCount_readable p coupons) inside
  · intro r count within
    refine ⟨fun enough => BitReader.peek_eq within ?_, BitReader.peek_past⟩
    rw [BitReader.rest, List.length_drop, Bits.length_ofWords, Array.length_toList]
    omega
  · rintro before call after rfl
    exact readBack_finish fits

/-- Forty zeros and a one from the fourth bit on reach into a second word. -/
def crossingCalls : List Call := [.number 5 3, .unary 40, .zeros 20]

theorem streams_faithful_across_words :
    (∀ call ∈ crossingCalls, call.Fits) ∧ (callAll crossingCalls empty).finish = #[5, 2048] ∧
      BitReader.readUnary ⟨#[5, 2048], 3⟩ 40 = .ok (40, ⟨#[5, 2048], 44⟩) := by
  have fits : ∀ call ∈ crossingCalls, call.Fits := by decide
  have words : (callAll crossingCalls empty).finish = #[5, 2048] := by decide +kernel
  have read := (streams_faithful fits).2.2.2 [.number 5 3] (.unary 40) [.zeros 20] rfl
  rw [words] at read
  exact ⟨fits, words, read 40 (le_refl 40) (by decide)⟩

end BitWriter
end DistinctCount
