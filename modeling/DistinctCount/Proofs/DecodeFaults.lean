import DistinctCount.Proofs.Decoding

/-! When reading an image ends in a fault. Everything that is wrong with the bytes is
refused with an error, up to the table: the pairs of a windowed image are put into a table
before the coupons are counted, and more pairs than such a table can take are a fault. -/
namespace DistinctCount

namespace Precision

theorem pairBits_bounds (p : Precision) : 10 ≤ p.pairBits ∧ p.pairBits ≤ 32 := by
  have four_le := p.four_le
  have le_twentySix := p.le_twentySix
  rw [pairBits]
  omega

/-- Up to half as many pairs as rows fit into a table at once. -/
theorem rows_le_initialCapacity (p : Precision) :
    p.rows ≤ 2 * PairTable.initialCapacity p.pairBits := by
  have four_le := p.four_le
  have le_twentySix := p.le_twentySix
  have bits := p.pairBits_bounds
  have capacity := @PairTable.four_mul_initialCapacity p.pairBits (by omega)
  have power : 2 ^ p.lgK ≤ 2 ^ min (p.pairBits - 1) 26 :=
    Nat.pow_le_pow_right (by decide) (by rw [pairBits]; omega)
  rw [rows]
  omega

end Precision

namespace Image

variable {s : Sketch} {pairs : List Pair} {fault : Fault}

theorem fillTable_fault (run : fillTable s pairs = .error fault)
    (inside : ∀ pair ∈ pairs, pair.InRange s.precision) : PairTable.limits fault = true := by
  rw [fillTable] at run
  split at run
  · rename_i refused
    cases run
    exact PairTable.ofItems_error
      (fun pair member => Pair.row_lt_rows_iff.mp (inside pair member).1) refused
  · contradiction

/-- Distinct pairs are put into a table without a fault exactly up to its capacity. -/
theorem fillTable_fault_iff (distinct : pairs.Nodup)
    (inside : ∀ pair ∈ pairs, pair.InRange s.precision) :
    (∃ fault, fillTable s pairs = .error fault) ↔
      PairTable.initialCapacity s.precision.pairBits < pairs.length := by
  have bits := s.precision.pairBits_bounds
  rw [← Nat.not_le, ← PairTable.ofItems_ok_iff distinct (fun pair member => (inside pair member).2)
    (fun pair member => Pair.row_lt_rows_iff.mp (inside pair member).1) (by omega) bits.2, fillTable]
  cases PairTable.ofItems s.precision.pairBits pairs <;> simp

theorem fillHybrid_ne_fault (distinct : pairs.Nodup)
    (inside : ∀ pair ∈ pairs, pair.InRange s.precision) (few : 2 * pairs.length < s.precision.rows) :
    fillHybrid s pairs ≠ .error fault := by
  intro run
  obtain ⟨marked, mark, _, _⟩ := Sketch.markEarly_spec fun pair member => (inside pair member).1
  simp only [fillHybrid, mark] at run
  have many := (@fillTable_fault_iff { s with window := marked } _ (distinct.filter _)
    (fun pair member => inside pair (List.mem_filter.mp member).1)).mp ⟨fault, run⟩
  have fewer := List.length_filter_le (fun pair : Pair => !decide (pair.column < 8)) pairs
  have room := s.precision.rows_le_initialCapacity
  simp only at many
  omega

/-- What has to be read of a windowed image before its table is made. -/
structure Unpacked (p : Precision) (coupons : Nat) (words : Array UInt32) (pairs : List Pair)
    (window : Array UInt8) (surprises : List Pair) : Prop where
  window : WindowStream.decode p coupons words = .ok window
  offset_le : windowOffset p coupons ≤ lastWindowOffset
  surprises : decodeSurprises (Flavor.ofCount p coupons) (windowPhase p coupons)
    (windowOffset p coupons) pairs #[] = .ok surprises

theorem fillWindowed_eq_fault {words : Array UInt32} :
    fillWindowed s words pairs = .error (.fault fault) ↔ ∃ window surprises,
      Unpacked s.precision s.numCoupons words pairs window surprises ∧
      fillTable { s with window := window, offset := windowOffset s.precision s.numCoupons }
        surprises = .error fault := by
  simp only [fillWindowed, bind_eq_error, Failure.ofImage_ne_fault,
    Failure.ofFault_eq_fault, Failure.ofImage_eq_ok, false_or]
  constructor
  · rintro ⟨window, decoded, _, within, surprises, read, run⟩
    have within := of_decide_eq_true (ensure_eq_ok.mp within)
    exact ⟨window, surprises, ⟨decoded, within, read⟩, run⟩
  · rintro ⟨window, surprises, ⟨decoded, within, read⟩, run⟩
    exact ⟨window, decoded, (), ensure_eq_ok.mpr (decide_eq_true within), surprises, read, run⟩

section
variable {words : Array UInt32} (half : s.precision.rows ≤ 2 * s.numCoupons)
  (distinct : pairs.Nodup) (inside : ∀ pair ∈ pairs, pair.InRange s.precision)
include half distinct inside

theorem fillWindowed_fault (run : fillWindowed s words pairs = .error (.fault fault)) :
    PairTable.limits fault = true := by
  obtain ⟨window, surprises, unpacked, run⟩ := fillWindowed_eq_fault.mp run
  obtain ⟨_, _, good, _⟩ :=
    decodeSurprises_spec half unpacked.offset_le distinct inside unpacked.surprises
  exact fillTable_fault run good

/-- A windowed image faults where its pairs are more than a table can take. -/
theorem fillWindowed_fault_iff : (∃ fault, fillWindowed s words pairs = .error (.fault fault)) ↔
    (∃ window surprises, Unpacked s.precision s.numCoupons words pairs window surprises) ∧
      PairTable.initialCapacity s.precision.pairBits < pairs.length := by
  have full {window : Array UInt8} {surprises : List Pair}
      (unpacked : Unpacked s.precision s.numCoupons words pairs window surprises) :
      (∃ fault, fillTable { s with window := window, offset := windowOffset s.precision s.numCoupons }
        surprises = .error fault) ↔ PairTable.initialCapacity s.precision.pairBits < pairs.length := by
    obtain ⟨length, fresh, good, _⟩ :=
      decodeSurprises_spec half unpacked.offset_le distinct inside unpacked.surprises
    rw [← length]
    exact fillTable_fault_iff fresh good
  simp only [fillWindowed_eq_fault]
  constructor
  · rintro ⟨fault, window, surprises, unpacked, run⟩
    exact ⟨⟨window, surprises, unpacked⟩, (full unpacked).mp ⟨fault, run⟩⟩
  · rintro ⟨⟨window, surprises, unpacked⟩, many⟩
    obtain ⟨fault, run⟩ := (full unpacked).mpr many
    exact ⟨fault, window, surprises, unpacked, run⟩

end

/-- The parts of an image decode to pairs, a window and surprises, whatever their number. -/
def Sections.Decodes (image : Sections) : Prop :=
  ∃ pairs window surprises,
    PairStream.decode image.preamble.precision image.table image.preamble.tableEntries.toNat =
      .ok pairs ∧
    Unpacked image.preamble.precision image.preamble.coupons.toNat image.window pairs window surprises

end Image

namespace Sketch

variable {s : Sketch} {pairs : List Pair} {words : Array UInt32} {fault : Fault}

/-- Only a table of surprises can be too small for its pairs. -/
theorem fill_eq_fault (distinct : pairs.Nodup) (inside : ∀ pair ∈ pairs, pair.InRange s.precision)
    (few : pairs.length ≤ s.numCoupons) : s.fill words pairs = .error (.fault fault) ↔
      s.precision.rows ≤ 2 * s.numCoupons ∧
        Image.fillWindowed s words pairs = .error (.fault fault) := by
  have room := s.precision.rows_le_initialCapacity
  have positive := s.precision.rows_pos
  rw [fill]
  rcases ofCount_cases s.precision s.numCoupons with ⟨_, flavor⟩ | ⟨_, less, flavor⟩ |
    ⟨_, less, flavor⟩ | ⟨half, _, flavor⟩ | ⟨many, flavor⟩ <;> simp only [Sketch.flavor, flavor]
  · exact iff_of_false (by simp) (by omega)
  · rw [Failure.ofFault_eq_fault]
    refine iff_of_false (fun run => ?_) (by omega)
    have many := (Image.fillTable_fault_iff distinct inside).mp ⟨fault, run⟩
    omega
  · rw [Failure.ofFault_eq_fault]
    exact iff_of_false (Image.fillHybrid_ne_fault distinct inside (by omega)) (by omega)
  · exact (and_iff_right half).symm
  · exact (and_iff_right (by omega)).symm

/-- Filling faults where the streams of a windowed image are in order and its pairs are
more than a table can take. -/
theorem fill_fault_iff (distinct : pairs.Nodup) (inside : ∀ pair ∈ pairs, pair.InRange s.precision)
    (few : pairs.length ≤ s.numCoupons) :
    (∃ fault, s.fill words pairs = .error (.fault fault)) ↔
      (∃ window surprises, Image.Unpacked s.precision s.numCoupons words pairs window surprises) ∧
        PairTable.initialCapacity s.precision.pairBits < pairs.length := by
  have room := s.precision.rows_le_initialCapacity
  simp only [fill_eq_fault distinct inside few, exists_and_left]
  by_cases half : s.precision.rows ≤ 2 * s.numCoupons
  · rw [and_iff_right half, Image.fillWindowed_fault_iff half distinct inside]
  · exact iff_of_false (fun faults => half faults.1) (by omega)

theorem ofImage_eq_fault {seed : UInt64} {bytes : List UInt8} :
    ofImage seed bytes = .error (.fault fault) ↔ ∃ image pairs,
      Image.sections seed bytes = .ok image ∧
      PairStream.decode image.preamble.precision image.table image.preamble.tableEntries.toNat =
        .ok pairs ∧
      (ofHead seed image.preamble).fill image.window pairs = .error (.fault fault) := by
  simp only [ofImage, bind_eq_error, Failure.ofError_ne_fault, Failure.ofImage_ne_fault,
    Failure.ofError_eq_ok, Failure.ofImage_eq_ok, false_or, pure, Except.pure, reduceCtorEq,
    and_false, exists_false, or_false]
  constructor
  · rintro ⟨image, sections, pairs, decoded, run⟩
    exact ⟨image, pairs, sections, decoded, run⟩
  · rintro ⟨image, pairs, sections, decoded, run⟩
    exact ⟨image, sections, pairs, decoded, run⟩

theorem fill_few {after : Sketch} (distinct : pairs.Nodup)
    (inside : ∀ pair ∈ pairs, pair.InRange s.precision) (few : pairs.length ≤ s.numCoupons)
    (run : s.fill words pairs = .ok after) :
    pairs.length ≤ PairTable.initialCapacity s.precision.pairBits := by
  have room := s.precision.rows_le_initialCapacity
  by_contra many
  have windowed : Image.fillWindowed s words pairs = .ok after := by
    rw [fill] at run
    rcases ofCount_cases s.precision s.numCoupons with ⟨_, flavor⟩ | ⟨_, _, flavor⟩ |
      ⟨_, _, flavor⟩ | ⟨_, _, flavor⟩ | ⟨_, flavor⟩ <;> simp only [Sketch.flavor, flavor] at run
    · omega
    · omega
    · omega
    · exact run
    · exact run
  obtain ⟨window, decoded, windowed⟩ := bind_eq_ok.mp windowed
  obtain ⟨_, within, windowed⟩ := bind_eq_ok.mp windowed
  obtain ⟨surprises, read, _⟩ := bind_eq_ok.mp windowed
  have unpacked : Image.Unpacked s.precision s.numCoupons words pairs window surprises :=
    ⟨Failure.ofImage_eq_ok.mp decoded,
      of_decide_eq_true (ensure_eq_ok.mp (Failure.ofImage_eq_ok.mp within)),
      Failure.ofImage_eq_ok.mp read⟩
  obtain ⟨fault, faults⟩ :=
    (fill_fault_iff distinct inside few).mpr ⟨⟨window, surprises, unpacked⟩, by omega⟩
  cases run.symm.trans faults

/-- The head of an accepted image, and the limits that its number of table entries keeps. -/
theorem ofImage_head {seed : UInt64} {bytes : List UInt8} (read : ofImage seed bytes = .ok s) :
    ∃ image rest, Preamble.read bytes = .ok (image, rest) ∧ s.precision = image.precision ∧
      s.numCoupons = image.coupons.toNat ∧ s.merged = image.merged ∧ s.hipState = image.hipState ∧
      image.tableEntries.toNat ≤ min s.numCoupons (PairTable.initialCapacity s.precision.pairBits) := by
  obtain ⟨image, pairs, filled, sections, decoded, run, _, _, rfl⟩ := ofImage_steps read
  obtain ⟨rest, head⟩ := Image.sections_read sections
  obtain ⟨length, distinct, inside, few⟩ := Image.decoded_pairs sections decoded
  have fits := fill_few distinct inside few run
  obtain ⟨⟨table, window, offset, rfl⟩, _⟩ :=
    fill_filled rfl (ofHead_layout seed image.preamble) (PairTable.empty_spec _).2.2 distinct inside run
  have placed := (Preamble.read_sound head).toPlaced
  exact ⟨image.preamble, rest, head, rfl, rfl, rfl, ofHead_hipState placed seed,
    length ▸ le_min few fits⟩

/-- Bytes that are no image of a counter are refused with an error, with one exception:
where the head and the bit streams are in order and a windowed image lists more pairs than
a table can be made of at once. Then the reading ends in a fault, which is one of the
limits of a table and never an access outside the slots, the window or the matrix. -/
theorem ofImage_fault_iff (seed : UInt64) (bytes : List UInt8) :
    ((∃ fault, ofImage seed bytes = .error (.fault fault)) ↔
      ∃ image, Image.sections seed bytes = .ok image ∧ image.Decodes ∧
        PairTable.initialCapacity image.preamble.precision.pairBits <
          image.preamble.tableEntries.toNat) ∧
    ∀ fault, ofImage seed bytes = .error (.fault fault) → PairTable.limits fault = true := by
  refine ⟨⟨?_, ?_⟩, ?_⟩
  · rintro ⟨fault, run⟩
    obtain ⟨image, pairs, sections, decoded, run⟩ := ofImage_eq_fault.mp run
    obtain ⟨length, distinct, inside, few⟩ := Image.decoded_pairs sections decoded
    obtain ⟨⟨window, surprises, unpacked⟩, many⟩ :=
      (fill_fault_iff distinct inside few).mp ⟨fault, run⟩
    exact ⟨image, sections, ⟨pairs, window, surprises, decoded, unpacked⟩, many.trans_eq length⟩
  · rintro ⟨image, sections, ⟨pairs, window, surprises, decoded, unpacked⟩, many⟩
    obtain ⟨length, distinct, inside, few⟩ := Image.decoded_pairs sections decoded
    obtain ⟨fault, run⟩ := (fill_fault_iff (s := ofHead seed image.preamble) distinct inside few).mpr
      ⟨⟨window, surprises, unpacked⟩, many.trans_eq length.symm⟩
    exact ⟨fault, ofImage_eq_fault.mpr ⟨image, pairs, sections, decoded, run⟩⟩
  · intro fault run
    obtain ⟨image, pairs, sections, decoded, run⟩ := ofImage_eq_fault.mp run
    obtain ⟨_, distinct, inside, few⟩ := Image.decoded_pairs sections decoded
    obtain ⟨half, run⟩ := (fill_eq_fault distinct inside few).mp run
    exact Image.fillWindowed_fault half distinct inside run

/-- An image of 16 rows with 385 pairs, one more than fit into a table. The two words of its
window are zero, which is the shortest code word for each row. -/
def crowdedImage : List UInt8 :=
  let pairs := (List.range 385).map fun i => Pair.pack (i / 56) (i % 56)
  [0x06, 0x01, 0x10, 0x04, 0x00, 0x1a, 0xcc, 0x93] ++
    LittleEndian.word32 385 ++ LittleEndian.word32 385 ++
    LittleEndian.word32 25 ++ LittleEndian.word32 2 ++
    wordsBytes #[0, 0] ++ wordsBytes (PairStream.encode Precision.least pairs)

/-- Its data does not hold 385 coupons, but the table is made before this is looked at. -/
theorem ofImage_crowded : ofImage 9001 crowdedImage = .error (.fault (.itemWidth 10 10)) := by
  have fault : (match ofImage 9001 crowdedImage with
      | .error (.fault fault) => some fault
      | _ => none) = some (.itemWidth 10 10) := by decide +kernel
  split at fault
  · rename_i read
    rw [read, Option.some.inj fault]
  · contradiction

end Sketch
end DistinctCount
