import DistinctCount.Proofs.Accepted
import DistinctCount.Proofs.Decoding

/-! Where an image ends. An image that is accepted is a row of parts whose widths its head
determines. A cut falls into one of them, and that part is reported as missing; bytes behind
the last part are counted and refused. So no accepted image is the start of another. -/
namespace DistinctCount

namespace Image

variable {seed : UInt64} {bytes rest : List UInt8} {image : Sections} {words : Array UInt32}

/-! ### Words -/

theorem readWords_reads (words : Array UInt32) (part : ImagePart) :
    Reads (readWords words.size part) [(part, 4 * words.size)] (Sketch.wordsBytes words) words where
  length := length_wordsBytes words
  whole := readWords_append words part
  short position found named := by
    have inside := Fields.exists_at?_iff.mp ⟨found, named⟩
    simp only [Fields.width_cons, Fields.width_nil, Nat.add_zero] at inside
    rw [Fields.at?, if_pos inside] at named
    cases named
    have few : ((Sketch.wordsBytes words).take position).length < 4 * words.size :=
      (List.length_take_le ..).trans_lt inside
    rw [readWords, if_pos few]

theorem exists_words {count : Nat} (enough : 4 * count ≤ bytes.length) :
    ∃ words : List UInt32, words.length = count ∧
      bytes = words.flatMap LittleEndian.word32 ++ bytes.drop (4 * count) := by
  induction count generalizing bytes with
  | zero => exact ⟨[], rfl, rfl⟩
  | succ count ih =>
    obtain ⟨words, length, split⟩ := @ih (bytes.drop 4) (by rw [List.length_drop]; omega)
    have four : (bytes.take 4).length = 4 := List.length_take_of_le (by omega)
    have small := LittleEndian.toNat_lt (bytes.take 4)
    have front := LittleEndian.ofNat_toNat (bytes.take 4)
    rw [four] at small front
    refine ⟨UInt32.ofNat (LittleEndian.toNat (bytes.take 4)) :: words, by rw [List.length_cons, length], ?_⟩
    rw [List.drop_drop] at split
    calc bytes = bytes.take 4 ++ bytes.drop 4 := (List.take_append_drop 4 bytes).symm
      _ = _ := by
        rw [List.flatMap_cons, LittleEndian.word32, UInt32.toNat_ofNat_of_lt' small, front,
          List.append_assoc, split, Nat.mul_succ, Nat.add_comm 4]

theorem readWords_sound {count : Nat} {part : ImagePart}
    (read : readWords count part bytes = .ok (words, rest)) :
    words.size = count ∧ bytes = Sketch.wordsBytes words ++ rest := by
  have enough : 4 * count ≤ bytes.length := by
    by_contra few
    rw [readWords, if_pos (Nat.lt_of_not_le few)] at read
    contradiction
  obtain ⟨found, rfl, split⟩ := exists_words enough
  have known := readWords_append found.toArray part (bytes.drop (4 * found.length))
  rw [Sketch.wordsBytes, ← split] at known
  cases known.symm.trans read
  exact ⟨rfl, split⟩

/-! ### Sections -/

def Sections.layout (image : Sections) : Fields :=
  image.preamble.layout ++
    ([(.windowData, 4 * image.window.size)] ++ [(.tableData, 4 * image.table.size)])

/-- The bytes of an image, with flags that need not be those that are written. -/
def Sections.toBytes (image : Sections) (flags : UInt8) : List UInt8 :=
  image.preamble.headBytes flags ++
    (Sketch.wordsBytes image.window ++ Sketch.wordsBytes image.table)

structure Sections.Sound (image : Sections) (seed : UInt64) : Prop where
  writable : image.preamble.Writable
  hash : Hash.seedHash seed = image.preamble.seedHash
  windowSize : image.window.size = image.preamble.windowWords.toNat
  tableSize : image.table.size = image.preamble.tableWords.toNat

theorem sections_split (read : sections seed bytes = .ok image) :
    image.Sound seed ∧ ∃ flags, Preamble.Flagged image.preamble.parts flags ∧
      bytes = image.toBytes flags := by
  obtain ⟨afterHead, afterWindow, head, hash, window, table⟩ := sections_steps read
  obtain ⟨writable, flags, flagged, rfl⟩ := Preamble.read_eq_ok.mp head
  obtain ⟨windowSize, rfl⟩ := readWords_sound window
  obtain ⟨tableSize, rfl⟩ := readWords_sound table
  refine ⟨⟨writable, hash, windowSize, tableSize⟩, flags, flagged, ?_⟩
  rw [Sections.toBytes, List.append_nil]

theorem Sections.Sound.window_reads (sound : image.Sound seed) :
    Reads (readWords image.preamble.windowWords.toNat .windowData)
      [(.windowData, 4 * image.window.size)] (Sketch.wordsBytes image.window) image.window :=
  sound.windowSize ▸ readWords_reads image.window .windowData

theorem Sections.Sound.table_reads (sound : image.Sound seed) :
    Reads (readWords image.preamble.tableWords.toNat .tableData)
      [(.tableData, 4 * image.table.size)] (Sketch.wordsBytes image.table) image.table :=
  sound.tableSize ▸ readWords_reads image.table .tableData

variable {flags : UInt8}

theorem Sections.Sound.length (sound : image.Sound seed)
    (flagged : Preamble.Flagged image.preamble.parts flags) :
    (image.toBytes flags).length = image.layout.width := by
  have head := (Preamble.read_reads sound.writable flagged).length
  rw [Sections.toBytes, Sections.layout, List.length_append, List.length_append, head,
    sound.window_reads.length, sound.table_reads.length, Fields.width_append, Fields.width_append]

/-- Of an image that is cut short, the part that is missing is named. -/
theorem Sections.Sound.sections_take (sound : image.Sound seed)
    (flagged : Preamble.Flagged image.preamble.parts flags) {position : Nat} {part : ImagePart}
    (found : image.layout.at? position = some part) :
    sections seed ((image.toBytes flags).take position) = .error (.image (.truncated part)) := by
  have head := Preamble.read_reads sound.writable flagged
  unfold sections Sections.toBytes
  rcases head.take_append _ found with cut | ⟨left, found, passed⟩
  · rw [cut]
  · rw [passed]
    simp only [sound.hash, ne_eq, not_true_eq_false, if_false]
    rcases sound.window_reads.take_append _ found with cut | ⟨left, found, passed⟩
    · rw [cut]
    · rw [passed]
      simp only [sound.table_reads.short left part found]

/-- Bytes behind an image are counted. -/
theorem Sections.Sound.sections_append (sound : image.Sound seed)
    (flagged : Preamble.Flagged image.preamble.parts flags) {more : List UInt8} (some : more ≠ []) :
    sections seed (image.toBytes flags ++ more) = .error (.image (.trailing more.length)) := by
  have head := Preamble.read_reads sound.writable flagged
  rw [sections, Sections.toBytes, List.append_assoc, List.append_assoc, head.whole]
  simp only [sound.hash, ne_eq, not_true_eq_false, if_false, sound.window_reads.whole,
    sound.table_reads.whole, List.isEmpty_iff, some]

end Image

namespace Sketch

theorem ofImage_error {seed : UInt64} {bytes : List UInt8} {error : Error}
    (refused : Image.sections seed bytes = .error error) :
    ofImage seed bytes = .error (.error error) := by
  rw [ofImage, refused]
  rfl

/-- An image says where it ends. If it is accepted, whatever it starts with is refused for the
part that is missing, and whatever starts with it is refused for the bytes that are left. Both
are errors of the data; none is a fault. -/
theorem ofImage_self_delimiting {seed : UInt64} {bytes : List UInt8} {s : Sketch}
    (accepted : ofImage seed bytes = .ok s) :
    ∃ image, Image.sections seed bytes = .ok image ∧ bytes.length = image.layout.width ∧
      (∀ cut, cut <+: bytes → cut ≠ bytes → ∃ error, ofImage seed cut = .error (.error error) ∧
        error.kind = .invalidData ∧
        ∃ part, image.layout.at? cut.length = some part ∧ error = .image (.truncated part)) ∧
      ∀ longer, bytes <+: longer → longer ≠ bytes → ∃ error,
        ofImage seed longer = .error (.error error) ∧ error.kind = .invalidData ∧
        error = .image (.trailing (longer.length - bytes.length)) := by
  obtain ⟨image, _, _, sections, _⟩ := ofImage_steps accepted
  obtain ⟨sound, flags, flagged, rfl⟩ := Image.sections_split sections
  have length := sound.length flagged
  refine ⟨image, sections, length, ?_, ?_⟩
  · intro cut start other
    have shorter : cut.length < image.layout.width := by
      rw [← length]
      exact start.length_le.lt_of_ne fun same => other (start.eq_of_length same)
    obtain ⟨part, found⟩ := Fields.exists_at?_iff.mpr shorter
    have refused := sound.sections_take flagged found
    rw [← List.prefix_iff_eq_take.mp start] at refused
    exact ⟨_, ofImage_error refused, rfl, part, found, rfl⟩
  · rintro _ ⟨more, rfl⟩ other
    have some : more ≠ [] := by
      rintro rfl
      exact other (List.append_nil _)
    have refused := sound.sections_append flagged some
    rw [List.length_append, Nat.add_sub_cancel_left]
    exact ⟨_, ofImage_error refused, rfl, rfl⟩

/-- An image with a window and a table, cut inside the number of its table entries and inside
its last word, and with two bytes behind it. -/
theorem ofImage_self_delimiting_gap :
    ofImage 9001 ((gapImage 0).take 14) = .error (.error (.image (.truncated .tableEntries))) ∧
      ofImage 9001 ((gapImage 0).take 35) = .error (.error (.image (.truncated .tableData))) ∧
      ofImage 9001 (gapImage 0 ++ [0, 0]) = .error (.error (.image (.trailing 2))) := by
  have accepted : (ofImage 9001 (gapImage 0)).toOption.map (·.numCoupons) = some 62 := by decide +kernel
  have shape : (Image.sections 9001 (gapImage 0)).toOption.map
      (fun image => (image.layout.at? 14, image.layout.at? 35)) =
        some (some .tableEntries, some .tableData) := by decide +kernel
  obtain ⟨s, read, -⟩ := exists_ok_of_map accepted
  obtain ⟨image, sections, -, cuts, longer⟩ := ofImage_self_delimiting read
  obtain ⟨_, same, parts⟩ := exists_ok_of_map shape
  cases sections.symm.trans same
  obtain ⟨early, late⟩ := Prod.mk.inj parts
  obtain ⟨_, first, -, _, found, rfl⟩ := cuts ((gapImage 0).take 14) (List.take_prefix _ _) (by decide)
  cases early.symm.trans found
  obtain ⟨_, second, -, _, found, rfl⟩ := cuts ((gapImage 0).take 35) (List.take_prefix _ _) (by decide)
  cases late.symm.trans found
  obtain ⟨_, third, -, rfl⟩ := longer (gapImage 0 ++ [0, 0]) (List.prefix_append _ _) (by decide)
  exact ⟨first, second, third⟩

end Sketch
end DistinctCount
