import DistinctCount.Flavor
import DistinctCount.Image.Window
import DistinctCount.Proofs.PairCodec
import DistinctCount.Proofs.Results

/-! The window as a stream, and the columns beside it as ranks. The bytes of a window
are read back from their words, and whatever words can be read start with those of the
window that comes out. The columns outside a window and the ranks below 56 stand for
each other, so a rank can be written in place of a column. -/
namespace DistinctCount

namespace WindowStream

variable {p : Precision} {coupons : Nat} {code : PrefixCode}

def bytesCode (code : PrefixCode) (window : List UInt8) : List Bool :=
  window.flatMap fun byte => (code.word byte.toNat).toList

theorem writeBytes_appends {w : BitWriter} (readable : code.Readable 256) (sound : w.Sound)
    (window : List UInt8) : w.Appends (bytesCode code window) (writeBytes code window w) := by
  induction window generalizing w with
  | nil => exact BitWriter.Appends.refl sound
  | cons byte rest ih =>
    have first := PrefixCode.writeWord_appends readable byte.toNat_lt sound
    exact first.trans (ih first.sound)

/-- Bytes are read back from their words and taken off, given the bits that a reader may
look past them. -/
theorem readBytes_eq {r : BitReader} {tail : List Bool} {window : List UInt8}
    (readable : code.Readable 256) (bits : r.rest = bytesCode code window ++ tail)
    (ahead : 11 ≤ tail.length) (read : Array UInt8) :
    ∃ after, readBytes code.tree window.length r read = .ok (read ++ window.toArray, after) ∧
      after.rest = tail := by
  induction window generalizing r read with
  | nil => exact ⟨r, by simp [readBytes], by simpa [bytesCode] using bits⟩
  | cons byte rest ih =>
    obtain ⟨⟨one, _⟩, _⟩ := readable byte.toNat byte.toNat_lt
    rw [bytesCode, List.flatMap_cons, ← bytesCode, List.append_assoc] at bits
    obtain ⟨symbol, restBits⟩ := PrefixCode.readSymbol_eq readable byte.toNat_lt bits (by
      rw [bits, List.length_append, List.length_append, CodeWord.toList_eq, Bits.length_ofNat]
      omega)
    obtain ⟨after, run, left⟩ := ih restBits (read.push byte)
    refine ⟨after, ?_, left⟩
    rw [List.length_cons, readBytes, symbol]
    dsimp only
    rw [UInt8.ofNat_toNat, run]
    simp

theorem encode_bits (p : Precision) (coupons : Nat) (window : Array UInt8) : ∃ fill < 32,
    Bits.ofWords (encode p coupons window).toList =
      bytesCode (WindowCode.ofCount p coupons) window.toList ++
        (List.replicate 11 false ++ List.replicate fill false) := by
  have written := writeBytes_appends (WindowCode.ofCount_readable p coupons) BitWriter.empty_sound
    window.toList
  have padded := written.trans (BitWriter.pad_appends written.sound (by decide : 11 ≤ 32))
  obtain ⟨fill, small, bits⟩ := BitWriter.finish_bits padded.sound
  refine ⟨fill, small, ?_⟩
  rw [encode, bits, padded.bits]
  simp [BitWriter.bits, BitWriter.empty, Bits.ofNat]

theorem decodeFrom_eq {words : Array UInt32} {window : Array UInt8} {tail : List Bool}
    (size : window.size = p.rows)
    (bits : Bits.ofWords words.toList =
      bytesCode (WindowCode.ofCount p coupons) window.toList ++ tail)
    (ahead : 11 ≤ tail.length) :
    ∃ after, decodeFrom p coupons words = .ok (window, after) ∧ after.rest = tail := by
  obtain ⟨after, run, left⟩ := readBytes_eq (r := .ofWords words)
    (WindowCode.ofCount_readable p coupons) bits ahead #[]
  rw [Array.length_toList, size] at run
  exact ⟨after, by simpa [decodeFrom] using run, left⟩

theorem decode_encode {window : Array UInt8} (size : window.size = p.rows) :
    decode p coupons (encode p coupons window) = .ok window := by
  obtain ⟨fill, _, bits⟩ := encode_bits p coupons window
  obtain ⟨after, run, _⟩ := decodeFrom_eq size bits
    (by simp only [List.length_append, List.length_replicate]; omega)
  rw [decode, run]

theorem bytesCode_length (readable : code.Readable 256) (window : List UInt8) :
    window.length ≤ (bytesCode code window).length ∧
      (bytesCode code window).length ≤ 12 * window.length := by
  induction window with
  | nil => simp [bytesCode]
  | cons byte rest ih =>
    obtain ⟨⟨one, twelve, _⟩, _⟩ := readable byte.toNat byte.toNat_lt
    rw [bytesCode, List.flatMap_cons, ← bytesCode, List.length_append, List.length_cons,
      CodeWord.toList_eq, Bits.length_ofNat]
    omega

theorem encode_size {window : Array UInt8} (size : window.size = p.rows) :
    0 < (encode p coupons window).size ∧ (encode p coupons window).size < 2 ^ 32 := by
  have rows := p.rows_le
  obtain ⟨fill, small, bits⟩ := encode_bits p coupons window
  obtain ⟨least, most⟩ := bytesCode_length (WindowCode.ofCount_readable p coupons) window.toList
  have length := congrArg List.length bits
  rw [Bits.length_ofWords, Array.length_toList] at length
  simp only [List.length_append, List.length_replicate] at length
  have listed : window.toList.length = p.rows := by rw [Array.length_toList, size]
  omega

/-- Whatever is read, the bytes are as many as asked for, and the bits taken are those of
their code. -/
theorem readBytes_takes {count : Nat} {r after : BitReader} {read window : Array UInt8}
    (readable : code.Readable 256) (complete : code.Complete 256)
    (run : readBytes code.tree count r read = .ok (window, after)) :
    ∃ added : List UInt8, window = read ++ added.toArray ∧ added.length = count ∧
      r.Takes (bytesCode code added) after := by
  induction count generalizing r read with
  | zero =>
    cases run
    exact ⟨[], by simp, rfl, .refl after⟩
  | succ count ih =>
    rw [readBytes] at run
    split at run
    · contradiction
    · rename_i symbol next first
      obtain ⟨small, word⟩ := PrefixCode.readSymbol_takes readable complete first
      obtain ⟨added, rfl, length, codes⟩ := ih run
      have byte : (UInt8.ofNat symbol).toNat = symbol := UInt8.toNat_ofNat_of_lt' small
      refine ⟨UInt8.ofNat symbol :: added, by simp, by simp [length], ?_⟩
      rw [bytesCode, List.flatMap_cons, byte]
      exact word.trans codes

theorem decodeFrom_takes {words : Array UInt32} {window : Array UInt8} {after : BitReader}
    (read : decodeFrom p coupons words = .ok (window, after)) :
    window.size = p.rows ∧ BitReader.Takes (.ofWords words)
      (bytesCode (WindowCode.ofCount p coupons) window.toList) after := by
  obtain ⟨added, rfl, length, codes⟩ := readBytes_takes (WindowCode.ofCount_readable p coupons)
    (WindowCode.ofCount_complete p coupons) read
  simpa using ⟨length, codes⟩

theorem decode_eq_ok {words : Array UInt32} {window : Array UInt8} :
    decode p coupons words = .ok window ↔ ∃ after, decodeFrom p coupons words = .ok (window, after) := by
  unfold decode
  split <;> simp_all

theorem decode_sound {words : Array UInt32} {window : Array UInt8}
    (read : decode p coupons words = .ok window) : window.size = p.rows := by
  obtain ⟨after, run⟩ := decode_eq_ok.mp read
  exact (decodeFrom_takes run).1

theorem writeBytes_bits (readable : code.Readable 256) (window : List UInt8) :
    (writeBytes code window .empty).bits = bytesCode code window :=
  (writeBytes_appends readable BitWriter.empty_sound window).bits

/-- Windows and their words stand for each other. A window of any bytes is read back from its
words, which hold its code, eleven zeros and zeros up to the end of the last word. Words that
can be read at all give a byte for each row, and the bits up to where the reader stops are
those written for these bytes. And any words that start with what is written for a window,
and go on for eleven bits, give this window. -/
theorem encode_decode_inverse (p : Precision) (coupons : Nat) :
    (∀ window, window.size = p.rows →
      decode p coupons (encode p coupons window) = .ok window ∧
      ∃ fill < 32, Bits.ofWords (encode p coupons window).toList =
        (writeBytes (WindowCode.ofCount p coupons) window.toList .empty).bits ++
          (List.replicate 11 false ++ List.replicate fill false)) ∧
    (∀ words window, decode p coupons words = .ok window → window.size = p.rows ∧
      ∃ after, decodeFrom p coupons words = .ok (window, after) ∧ after.words = words ∧
        after.position ≤ 32 * words.size ∧ (Bits.ofWords words.toList).take after.position =
          (writeBytes (WindowCode.ofCount p coupons) window.toList .empty).bits) ∧
    ∀ words window tail, window.size = p.rows → 11 ≤ tail.length →
      Bits.ofWords words.toList =
        (writeBytes (WindowCode.ofCount p coupons) window.toList .empty).bits ++ tail →
      ∃ after, decodeFrom p coupons words = .ok (window, after) ∧ after.rest = tail := by
  have code (window : Array UInt8) := writeBytes_bits (WindowCode.ofCount_readable p coupons) window.toList
  refine ⟨fun window size => ⟨decode_encode size, ?_⟩, ?_, ?_⟩
  · rw [code]
    exact encode_bits p coupons window
  · intro words window read
    obtain ⟨after, run⟩ := decode_eq_ok.mp read
    obtain ⟨size, takes⟩ := decodeFrom_takes run
    obtain ⟨sameWords, position, inside, taken⟩ := takes.of_start
    refine ⟨size, after, run, sameWords, by rwa [position], ?_⟩
    rw [code, position, taken]
  · intro words window tail size ahead bits
    rw [code] at bits
    exact decodeFrom_eq size bits ahead

def strayWords : Array UInt32 := #[0xdeadbeef, 0xcafebabe, 0x12345678, 0x9abcdef0]

/-- Words that were not written for a window hold one in their first 89 bits, and the words
of that window start with the same bits. -/
theorem encode_decode_inverse_stray_words : ∃ window after,
    decodeFrom Precision.least 70 strayWords = .ok (window, after) ∧ after.position = 89 ∧
    decode Precision.least 70 (encode Precision.least 70 window) = .ok window ∧
    (Bits.ofWords strayWords.toList).take 89 =
      (Bits.ofWords (encode Precision.least 70 window).toList).take 89 := by
  have known : (decodeFrom Precision.least 70 strayWords).toOption.map
      (fun read => read.2.position) = some 89 := by decide +kernel
  obtain ⟨⟨window, after⟩, run, position⟩ := exists_ok_of_map known
  obtain ⟨forth, back, _⟩ := encode_decode_inverse Precision.least 70
  obtain ⟨size, stop, again, _, _, taken⟩ := back _ window (decode_eq_ok.mpr ⟨after, run⟩)
  cases run.symm.trans again
  obtain ⟨whole, fill, _, bits⟩ := forth window size
  rw [position] at taken
  have length := congrArg List.length taken
  rw [List.length_take_of_le (by simp [strayWords])] at length
  refine ⟨window, after, run, position, whole, ?_⟩
  rw [bits, List.take_left' length.symm]
  exact taken

end WindowStream

namespace ColumnOrder

variable {phase offset column rank : Nat}

/-- Whether numbers are distinct and not among the bits of `seen`. -/
def areDistinct : List Nat → (seen : Nat) → Bool
  | [], _ => true
  | rank :: rest, seen => !seen.testBit rank && areDistinct rest (seen ||| 1 <<< rank)

theorem areDistinct_spec {table : List Nat} {seen : Nat} (distinct : areDistinct table seen = true) :
    table.Nodup ∧ ∀ rank ∈ table, seen.testBit rank = false := by
  induction table generalizing seen with
  | nil => simp
  | cons rank rest ih =>
    simp only [areDistinct, Bool.and_eq_true, Bool.not_eq_true'] at distinct
    obtain ⟨nodup, fresh⟩ := ih distinct.2
    have apart {other : Nat} (member : other ∈ rest) : seen.testBit other = false ∧ rank ≠ other := by
      have clear := fresh other member
      simpa [Nat.testBit_or, Nat.one_shiftLeft, Nat.testBit_two_pow] using clear
    refine ⟨List.nodup_cons.mpr ⟨fun member => (apart member).2 rfl, nodup⟩, ?_⟩
    intro other member
    rcases List.mem_cons.mp member with rfl | member
    · exact distinct.1
    · exact (apart member).1

theorem ranks_spec : ∀ table ∈ ranks,
    table.length = 56 ∧ areDistinct table 0 = true ∧ ∀ rank ∈ table, rank < 56 := by
  decide +kernel

theorem ranks_getD (inside : phase < 16) : (ranks.getD phase []).length = 56 ∧
    (ranks.getD phase []).Nodup ∧ ∀ rank ∈ ranks.getD phase [], rank < 56 := by
  have bound : phase < ranks.length := inside
  rw [List.getD_eq_getElem?_getD, List.getElem?_eq_getElem bound, Option.getD_some]
  obtain ⟨length, distinct, small⟩ := ranks_spec _ (List.getElem_mem bound)
  exact ⟨length, (areDistinct_spec distinct).1, small⟩

def Outside (offset column : Nat) : Prop := column < offset ∨ offset + 8 ≤ column

/-- A column outside the window has a rank, which stands for it alone. -/
theorem exists_rank (inside : phase < 16) (within : offset ≤ 56) (small : column < 64)
    (outside : Outside offset column) :
    ∃ rank < 56, rank? phase offset column = some rank ∧ column? phase offset rank = some column := by
  obtain ⟨length, distinct, bound⟩ := ranks_getD inside
  have place : (column + 120 - offset) % 64 < 56 ∧
      ((column + 120 - offset) % 64 + offset + 8) % 64 = column := by
    rcases outside with before | behind <;> omega
  have here : (column + 120 - offset) % 64 < (ranks.getD phase []).length := by omega
  refine ⟨(ranks.getD phase [])[(column + 120 - offset) % 64], bound _ (List.getElem_mem here), ?_, ?_⟩
  · rw [rank?, List.getElem?_eq_getElem here]
  · have found : (ranks.getD phase []).findIdx?
        (· == (ranks.getD phase [])[(column + 120 - offset) % 64]) =
          some ((column + 120 - offset) % 64) := by
      rw [List.findIdx?_eq_some_iff_getElem]
      refine ⟨here, beq_self_eq_true _, fun index before => ?_⟩
      simp only [Bool.not_eq_true, beq_eq_false_iff_ne, ne_eq]
      intro same
      have := (List.Nodup.getElem_inj_iff distinct).mp same
      omega
    rw [column?, found]
    exact congrArg some place.2

/-- What a rank stands for is a column outside the window, and no other rank stands
for it. -/
theorem column?_sound (inside : phase < 16) (within : offset ≤ 56)
    (found : column? phase offset rank = some column) :
    column < 64 ∧ Outside offset column ∧ rank? phase offset column = some rank := by
  obtain ⟨length, _, _⟩ := ranks_getD inside
  rw [column?] at found
  split at found
  · rename_i index position
    obtain ⟨here, same, _⟩ := List.findIdx?_eq_some_iff_getElem.mp position
    cases found
    have bound : index < 56 := length ▸ here
    have back : ((index + offset + 8) % 64 + 120 - offset) % 64 = index := by omega
    refine ⟨Nat.mod_lt _ (by decide), ?_, ?_⟩
    · rw [Outside]
      omega
    · rw [rank?, back, List.getElem?_eq_getElem here]
      exact congrArg some (eq_of_beq same)
  · contradiction

end ColumnOrder
end DistinctCount
