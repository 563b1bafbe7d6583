import DistinctCount.Image.Preamble
import DistinctCount.Proofs.FieldReaders
import DistinctCount.Proofs.Layout

/-! Heads of images. What is written of a head is read back as it was, whatever
follows it. The bytes that a head is read from are those that are written for it, but for the
flags that have no meaning. -/
namespace DistinctCount

namespace Preamble

variable {p : Preamble} {rest : List UInt8}

/-! ### Heads -/

/-- The parts of a head are those of its flavor, and the fields that are not written for
these parts have the values that a reader puts in their place. -/
structure Placed (p : Preamble) : Prop where
  interesting : p.firstInteresting ≤ 63
  fits : p.parts.fit (Flavor.ofCount p.precision p.coupons.toNat) = true
  entries_eq : (p.parts.table && p.parts.window) = false →
    p.tableEntries = if p.parts.table then p.coupons else 0
  history : p.merged = true ∨ p.coupons = 0 → p.hipState = Hip.start p.precision

/-- The numbers of a head fit together, as what is read of an image has to. -/
structure Writable (p : Preamble) : Prop extends Placed p where
  coupons_le : p.coupons.toNat ≤ p.precision.cells
  entries_le : p.tableEntries ≤ p.coupons
  entries_pos : p.parts.table = true → p.tableEntries ≠ 0
  finite : p.hipFinite = true

theorem fit_data {parts : Parts} {precision : Precision} {coupons : UInt32}
    (fits : parts.fit (Flavor.ofCount precision coupons.toNat) = true) :
    (parts.table || parts.window) = true ↔ coupons ≠ 0 := by
  have zero : coupons = 0 ↔ coupons.toNat = 0 := by
    rw [← UInt32.toNat_inj]
    rfl
  have positive := precision.rows_pos
  rw [ne_eq, zero]
  rcases ofCount_cases precision coupons.toNat with ⟨_, flavor⟩ | ⟨_, _, flavor⟩ | ⟨_, _, flavor⟩ |
    ⟨_, _, flavor⟩ | ⟨_, flavor⟩ <;> rw [flavor] at fits <;>
    simp only [Parts.fit, Bool.and_eq_true, Bool.not_eq_true'] at fits <;> simp [fits] <;> omega

theorem fit_no_data {parts : Parts} {precision : Precision} {coupons : UInt32}
    (fits : parts.fit (Flavor.ofCount precision coupons.toNat) = true) :
    coupons = 0 ↔ (parts.table || parts.window) = false := by
  rw [← Bool.not_eq_true, fit_data fits, not_not]

/-- Flags that say that the data is compressed and which parts there are. The other bits have
no meaning. -/
def Flagged (parts : Parts) (flags : UInt8) : Prop :=
  isFlagSet flags 1 = true ∧ Parts.ofFlags flags = parts

theorem flagged_iff {parts : Parts} {flags : UInt8} :
    Flagged parts flags ↔ flags &&& 0x1e = parts.flags := by
  have table : ∀ flags : UInt8, ∀ hip table window : Bool,
      (isFlagSet flags 1 = true ∧ Parts.ofFlags flags = ⟨hip, table, window⟩) ↔
        flags &&& 0x1e = Parts.flags ⟨hip, table, window⟩ := by decide +kernel
  exact table flags parts.hip parts.table parts.window

theorem flagged_flags (parts : Parts) : Flagged parts parts.flags := by
  apply flagged_iff.mpr
  obtain ⟨hip, table, window⟩ := parts
  cases hip <;> cases table <;> cases window <;> rfl

namespace Start

def layout : Fields :=
  [(.preambleInts, 1), (.serialVersion, 1), (.family, 1), (.lgK, 1), (.firstInteresting, 1),
    (.flags, 1), (.seedHash, 2)]

def toBytes (start : Start) (flags : UInt8) : List UInt8 :=
  [start.units, version, family, UInt8.ofNat start.precision.lgK, start.firstInteresting, flags] ++
    LittleEndian.word16 start.seedHash

end Start

theorem readStart_reads {start : Start} {flags : UInt8} (interesting : start.firstInteresting ≤ 63)
    (flagged : Flagged start.parts flags) :
    Reads readStart Start.layout (start.toBytes flags) start := by
  have precision : readPrecision (UInt8.ofNat start.precision.lgK) = .ok start.precision := by
    have small : start.precision.lgK < 2 ^ 8 := start.precision.le_twentySix.trans_lt (by decide)
    simp [readPrecision, UInt8.toNat_ofNat_of_lt' small]
  have last := (readNat_reads 2 .seedHash start.seedHash.toNat_lt).map (f := fun hash =>
    (⟨start.units, start.precision, start.firstInteresting, Parts.ofFlags flags, UInt16.ofNat hash⟩ : Start))
  rw [flagged.2, UInt16.ofNat_toNat] at last
  refine (readByte_reads .preambleInts start.units).bind ?_
  refine (readByte_reads .serialVersion version).bind ?_
  refine (readByte_reads .family family).bind ?_
  refine Reads.step (ensure_eq_ok.mpr rfl) (Reads.step (ensure_eq_ok.mpr rfl) ?_)
  refine (readByte_reads .lgK _).bind (Reads.step precision ?_)
  refine (readByte_reads .firstInteresting start.firstInteresting).bind ?_
  refine Reads.step (ensure_eq_ok.mpr (decide_eq_true interesting)) ?_
  refine (readByte_reads .flags flags).bind (Reads.step (ensure_eq_ok.mpr flagged.1) ?_)
  rw [flagged.2]
  exact last

theorem readStart_sound {start : Start} {bytes : List UInt8}
    (read : readStart bytes = .ok (start, rest)) : start.firstInteresting ≤ 63 ∧
      ∃ flags, Flagged start.parts flags ∧ bytes = start.toBytes flags ++ rest := by
  rw [readStart] at read
  obtain ⟨⟨units, _⟩, first, read⟩ := bind_eq_ok.mp read
  obtain ⟨⟨serialVersion, _⟩, second, read⟩ := bind_eq_ok.mp read
  obtain ⟨⟨familyId, _⟩, third, read⟩ := bind_eq_ok.mp read
  obtain ⟨_, sameFamily, read⟩ := bind_eq_ok.mp read
  obtain ⟨_, sameVersion, read⟩ := bind_eq_ok.mp read
  obtain ⟨⟨lgK, _⟩, fourth, read⟩ := bind_eq_ok.mp read
  obtain ⟨precision, known, read⟩ := bind_eq_ok.mp read
  obtain ⟨⟨interesting, _⟩, fifth, read⟩ := bind_eq_ok.mp read
  obtain ⟨_, small, read⟩ := bind_eq_ok.mp read
  obtain ⟨⟨flags, _⟩, sixth, read⟩ := bind_eq_ok.mp read
  obtain ⟨_, compressed, read⟩ := bind_eq_ok.mp read
  obtain ⟨⟨hash, _⟩, seventh, read⟩ := bind_eq_ok.mp read
  cases read
  obtain rfl : familyId = family := eq_of_beq (ensure_eq_ok.mp sameFamily)
  obtain rfl : serialVersion = version := eq_of_beq (ensure_eq_ok.mp sameVersion)
  obtain rfl : UInt8.ofNat precision.lgK = lgK := by
    unfold readPrecision at known
    split at known
    · rename_i found
      cases known
      rw [← Precision.ofNat?_eq_some_iff.mp found, UInt8.ofNat_toNat]
    · contradiction
  obtain ⟨hashSmall, hashBytes⟩ := readNat_sound seventh
  refine ⟨of_decide_eq_true (ensure_eq_ok.mp small), flags, ⟨ensure_eq_ok.mp compressed, rfl⟩, ?_⟩
  rw [readByte_sound first, readByte_sound second, readByte_sound third, readByte_sound fourth,
    readByte_sound fifth, readByte_sound sixth, hashBytes, Start.toBytes, LittleEndian.word16,
    UInt16.toNat_ofNat_of_lt' hashSmall]
  rfl

def fieldLayout (p : Preamble) : Fields :=
  let both := p.parts.table && p.parts.window
  let history : Fields := if p.parts.hip then [(.kxp, 8), (.hip, 8)] else []
  if p.coupons = 0 then []
  else
    [(.coupons, 4)] ++ (if both then [(.tableEntries, 4)] ++ history else []) ++
      (if p.parts.table then [(.tableWords, 4)] else []) ++
      (if p.parts.window then [(.windowWords, 4)] else []) ++ (if both then [] else history)

def fieldBytes (p : Preamble) : List UInt8 :=
  let both := p.parts.table && p.parts.window
  let history := if p.parts.hip then hipBytes p.hipState else []
  if p.coupons = 0 then []
  else
    LittleEndian.word32 p.coupons ++
      (if both then LittleEndian.word32 p.tableEntries ++ history else []) ++
      (if p.parts.table then LittleEndian.word32 p.tableWords else []) ++
      (if p.parts.window then LittleEndian.word32 p.windowWords else []) ++
      (if both then [] else history)

theorem readFields_reads (placed : p.Placed) (units : UInt8) :
    Reads (readFields ⟨units, p.precision, p.firstInteresting, p.parts, p.seedHash⟩) p.fieldLayout
      p.fieldBytes p := by
  obtain ⟨_, fits, entries, history⟩ := placed
  have data := fit_no_data fits
  have no_table : p.parts.table = false → p.tableWords = 0 := by simp [parts]
  have no_window : p.parts.window = false → p.windowWords = 0 := by simp [parts]
  have no_history : p.parts.hip = false → p.hipState = Hip.start p.precision := fun absent =>
    history (Or.inl (by simpa [parts] using absent))
  have no_data : p.coupons = 0 → p.hipState = Hip.start p.precision := fun none =>
    history (Or.inr none)
  -- The history stands before the lengths if both parts are there, and last if only one is.
  let early := if p.parts.table && p.parts.window then p.hipState else Hip.start p.precision
  refine Reads.of_eq
    ((readIf_reads (fun _ => readWord_reads .coupons p.coupons) data.mpr).bind
    ((readIf_reads (fun _ => readWord_reads .tableEntries p.tableEntries) entries).bind
    ((readIf_reads (fun _ => readHip_reads early) ?_).bind
    ((readIf_reads (fun _ => readWord_reads .tableWords p.tableWords) no_table).bind
    ((readIf_reads (fun _ => readWord_reads .windowWords p.windowWords) no_window).bind
    ((readIf_reads (fun _ => readHip_reads p.hipState) ?_).bind
    (Reads.pure _))))))) ?_ ?_ ?_
  · simp only [early]
    cases table : p.parts.table <;> cases window : p.parts.window <;> simp_all
  · simp only [early]
    cases table : p.parts.table <;> cases window : p.parts.window <;> simp_all
  · simp only [fieldLayout, data]
    cases p.parts.table <;> cases p.parts.window <;> cases p.parts.hip <;> rfl
  · simp only [fieldBytes, data, early]
    cases p.parts.table <;> cases p.parts.window <;> cases p.parts.hip <;> simp
  · simp only [parts, Bool.not_not]

theorem readFields_sound {start : Start} {bytes : List UInt8}
    (read : readFields start bytes = .ok (p, rest)) :
    p.precision = start.precision ∧ p.firstInteresting = start.firstInteresting ∧
    p.seedHash = start.seedHash ∧ p.parts.hip = start.parts.hip ∧
    ((start.parts.table && start.parts.window) = false →
      p.tableEntries = if start.parts.table then p.coupons else 0) ∧
    (start.parts.hip = false ∨ (start.parts.table || start.parts.window) = false →
      p.hipState = Hip.start p.precision) ∧
    (p.parts = start.parts → (p.coupons = 0 ↔ (start.parts.table || start.parts.window) = false) →
      p.hipFinite = true → bytes = p.fieldBytes ++ rest) := by
  simp only [readFields] at read
  obtain ⟨⟨coupons, afterCoupons⟩, first, read⟩ := bind_eq_ok.mp read
  obtain ⟨⟨tableEntries, afterEntries⟩, second, read⟩ := bind_eq_ok.mp read
  obtain ⟨⟨early, afterEarly⟩, third, read⟩ := bind_eq_ok.mp read
  obtain ⟨⟨tableWords, afterTable⟩, fourth, read⟩ := bind_eq_ok.mp read
  obtain ⟨⟨windowWords, afterWindow⟩, fifth, read⟩ := bind_eq_ok.mp read
  obtain ⟨⟨hip, afterHip⟩, sixth, read⟩ := bind_eq_ok.mp read
  cases read
  have onlyEarly := readIf_absent sixth
  refine ⟨rfl, rfl, rfl, ?_, readIf_absent second, ?_, ?_⟩
  · exact Bool.not_not _
  · intro blank
    have late : ((start.parts.table || start.parts.window) &&
        !(start.parts.table && start.parts.window) && start.parts.hip) = false := by
      rcases blank with absent | none
      · rw [absent, Bool.and_false]
      · rw [none, Bool.false_and, Bool.false_and]
    have soon : (start.parts.table && start.parts.window && start.parts.hip) = false := by
      rcases blank with absent | none
      · rw [absent, Bool.and_false]
      · rw [(Bool.or_eq_false_iff.mp none).1, Bool.false_and, Bool.false_and]
    exact (onlyEarly late).trans (readIf_absent third soon)
  · intro same data finite
    have finite : start.parts.hip = true →
        hip.kxp.isFinite = true ∧ hip.accumulated.isFinite = true := by
      intro present
      simpa [hipFinite, present] using finite
    have earlyBytes : start.parts.table = true → start.parts.window = true →
        start.parts.hip = true → readHip afterEntries = .ok (early, afterEarly) →
        afterEntries = hipBytes early ++ afterEarly := by
      intro table window present passed
      have same : hip = early := onlyEarly (by simp [table, window])
      exact readHip_sound passed (same ▸ finite present)
    have coupons_eq := readIf_sound first fun _ => readWord_sound
    have entries_eq := readIf_sound second fun _ => readWord_sound
    have early_eq := readIf_sound third fun there => by
      simp only [Bool.and_eq_true] at there
      exact earlyBytes there.1.1 there.1.2 there.2
    have table_eq := readIf_sound fourth fun _ => readWord_sound
    have window_eq := readIf_sound fifth fun _ => readWord_sound
    have late_eq := readIf_sound sixth fun there passed => by
      simp only [Bool.and_eq_true] at there
      exact readHip_sound passed (finite there.2)
    dsimp only at *
    subst coupons_eq entries_eq early_eq table_eq window_eq late_eq
    rw [fieldBytes, same]
    simp only [data]
    cases table : start.parts.table <;> cases window : start.parts.window <;>
      cases present : start.parts.hip <;> simp_all

/-! ### Whole heads -/

def start (p : Preamble) : Start :=
  ⟨UInt8.ofNat (p.parts.units p.coupons), p.precision, p.firstInteresting, p.parts, p.seedHash⟩

def layout (p : Preamble) : Fields := Start.layout ++ p.fieldLayout

/-- The bytes of a head with flags that need not be those that are written. -/
def headBytes (p : Preamble) (flags : UInt8) : List UInt8 := p.start.toBytes flags ++ p.fieldBytes

theorem toBytes_eq (p : Preamble) : p.toBytes = p.headBytes p.parts.flags := rfl

theorem units_le (parts : Parts) (coupons : UInt32) : parts.units coupons ≤ 10 := by
  rw [Parts.units]
  split_ifs <;> omega

theorem toNat_start_units (p : Preamble) : p.start.units.toNat = p.parts.units p.coupons := by
  have few := units_le p.parts p.coupons
  exact UInt8.toNat_ofNat_of_lt' (Nat.lt_of_le_of_lt few (by decide))

theorem length_headBytes (p : Preamble) (flags : UInt8) :
    (p.headBytes flags).length = 4 * p.parts.units p.coupons := by
  simp only [headBytes, Start.toBytes, fieldBytes, Parts.units]
  cases p.parts.table <;> cases p.parts.window <;> cases p.parts.hip <;> split_ifs <;>
    simp_all [hipBytes, LittleEndian.word16, LittleEndian.word32, LittleEndian.word64]

theorem check_eq_ok {parts : Parts} : p.check parts = .ok () ↔
    p.coupons.toNat ≤ p.precision.cells ∧ p.tableEntries ≤ p.coupons ∧
    parts.fit (Flavor.ofCount p.precision p.coupons.toNat) = true ∧
    (parts.table = p.parts.table ∧ parts.window = p.parts.window) ∧
    (parts.table = true → p.tableEntries ≠ 0) ∧ p.hipFinite = true := by
  have entries : (!parts.table || p.tableEntries != 0) = true ↔
      (parts.table = true → p.tableEntries ≠ 0) := by
    cases parts.table <;> simp
  simp only [check, ensure_bind_eq_ok, ensure_eq_ok, decide_eq_true_eq, Bool.and_eq_true, beq_iff_eq,
    entries]

/-- A head that fits together is read from its bytes, and from no fewer. -/
theorem read_reads {flags : UInt8} (writable : p.Writable) (flagged : Flagged p.parts flags) :
    Reads read p.layout (p.headBytes flags) p := by
  have units : (p.start.parts.units p.coupons == p.start.units.toNat) = true :=
    beq_iff_eq.mpr p.toNat_start_units.symm
  have checked : p.check p.start.parts = .ok () := check_eq_ok.mpr
    ⟨writable.coupons_le, writable.entries_le, writable.fits, ⟨rfl, rfl⟩, writable.entries_pos,
      writable.finite⟩
  refine Reads.of_eq ((@readStart_reads p.start flags writable.interesting flagged).bind
    ((readFields_reads writable.toPlaced _).bind (Reads.step (ensure_eq_ok.mpr units)
      (Reads.step checked (Reads.pure p))))) ?_ ?_ rfl
  · rw [List.append_nil, layout]
  · rw [List.append_nil, headBytes]

/-- A head is read from the bytes of a head that fits together, and from no others. -/
theorem read_eq_ok {bytes : List UInt8} : read bytes = .ok (p, rest) ↔
    p.Writable ∧ ∃ flags, Flagged p.parts flags ∧ bytes = p.headBytes flags ++ rest := by
  constructor
  · intro readable
    obtain ⟨⟨start, afterStart⟩, started, readable⟩ := bind_eq_ok.mp readable
    obtain ⟨⟨q, afterFields⟩, fields, readable⟩ := bind_eq_ok.mp readable
    obtain ⟨units, readable⟩ := ensure_bind_eq_ok.mp readable
    obtain ⟨_, checked, readable⟩ := bind_eq_ok.mp readable
    cases readable
    obtain ⟨interesting, flags, flagged, rfl⟩ := readStart_sound started
    obtain ⟨samePrecision, sameInteresting, sameHash, sameHip, entries, history, bytes⟩ :=
      readFields_sound fields
    obtain ⟨coupons_le, entries_le, fits, ⟨sameTable, sameWindow⟩, entries_pos, finite⟩ :=
      check_eq_ok.mp checked
    have sameParts : p.parts = start.parts := calc
      p.parts = ⟨p.parts.hip, p.parts.table, p.parts.window⟩ := rfl
      _ = ⟨start.parts.hip, start.parts.table, start.parts.window⟩ := by
        rw [sameHip, sameTable, sameWindow]
    have same : p.start = start := by
      rw [Preamble.start, sameParts, eq_of_beq units, UInt8.ofNat_toNat, samePrecision, sameInteresting,
        sameHash]
    have data := fit_no_data fits
    refine ⟨⟨⟨sameInteresting ▸ interesting, sameParts ▸ fits, sameParts ▸ entries, ?_⟩, coupons_le,
      entries_le, sameParts ▸ entries_pos, finite⟩, flags, sameParts ▸ flagged, ?_⟩
    · intro blank
      exact history (blank.imp (fun merged => by rw [← sameHip, parts, merged]; rfl) data.mp)
    · rw [headBytes, same, bytes sameParts data finite, List.append_assoc]
  · rintro ⟨writable, flags, flagged, rfl⟩
    exact (read_reads writable flagged).whole rest

theorem read_sound {bytes : List UInt8} (readable : read bytes = .ok (p, rest)) : p.Writable :=
  (read_eq_ok.mp readable).1

theorem read_toBytes (writable : p.Writable) (rest : List UInt8) :
    read (p.toBytes ++ rest) = .ok (p, rest) :=
  (read_reads writable (flagged_flags p.parts)).whole rest

/-- Reading and writing heads are inverse. What is read takes as many units as the first byte
says; these bytes are what is written, but for the flags that have no meaning; and what is
written is read back whatever follows. -/
theorem read_toBytes_inverse {bytes : List UInt8} (readable : read bytes = .ok (p, rest)) :
    ∃ units, bytes[0]? = some units ∧ 4 * units.toNat ≤ bytes.length ∧
      rest = bytes.drop (4 * units.toNat) ∧
      p.toBytes = (bytes.take (4 * units.toNat)).modify 5 (· &&& 0x1e) ∧
      (∀ more, read (p.toBytes ++ more) = .ok (p, more)) ∧
      p.imageSize = 4 * (units.toNat + p.tableWords.toNat + p.windowWords.toNat) := by
  obtain ⟨writable, flags, flagged, rfl⟩ := read_eq_ok.mp readable
  have length : (p.headBytes flags).length = 4 * p.start.units.toNat := by
    rw [length_headBytes, toNat_start_units]
  refine ⟨p.start.units, rfl, ?_, ?_, ?_, read_toBytes writable, ?_⟩
  · rw [List.length_append, length]
    exact Nat.le_add_right _ _
  · rw [List.drop_left' length]
  · rw [List.take_left' length, toBytes_eq, ← flagged_iff.mp flagged]
    rfl
  · rw [imageSize, toNat_start_units]

def fullHead (flags : UInt8) : List UInt8 :=
  [10, 1, 16, 4, 0, flags, 0x34, 0x12, 10, 0, 0, 0, 3, 0, 0, 0, 0, 0, 0, 0, 0, 0, 0x2e, 0x40,
    0, 0, 0, 0, 0, 0, 0x28, 0x40, 2, 0, 0, 0, 5, 0, 0, 0]

/-- Three flags without a meaning are set. They are not written. -/
theorem read_toBytes_inverse_stray_flags :
    ∃ p, read (fullHead 0xff ++ [7, 8, 9]) = .ok (p, [7, 8, 9]) ∧
      p.toBytes = fullHead 0x1e ∧ p.imageSize = 68 := by
  have known : (read (fullHead 0xff ++ [7, 8, 9])).toOption.map
      (fun head => (head.1.tableWords, head.1.windowWords, head.2)) = some (2, 5, [7, 8, 9]) := by
    decide +kernel
  obtain ⟨⟨p, rest⟩, readable, parts⟩ := exists_ok_of_map known
  simp only [Prod.mk.injEq] at parts
  obtain ⟨table, window, rfl⟩ := parts
  obtain ⟨units, first, _, _, written, _, size⟩ := read_toBytes_inverse readable
  cases first
  rw [table, window] at size
  exact ⟨p, readable, written, size⟩

/-- Any head starts as it was written, whether or not its fields fit together. -/
theorem readStart_toBytes (interesting : p.firstInteresting ≤ 63) (rest : List UInt8) :
    readStart (p.toBytes ++ rest) = .ok (p.start, p.fieldBytes ++ rest) := by
  have reads := @readStart_reads p.start _ interesting (flagged_flags p.parts)
  rw [toBytes_eq, headBytes, List.append_assoc]
  exact reads.whole _

/-- A head with the parts of its flavor is read as it was written or not at all, whatever its
numbers are. -/
theorem Placed.eq_of_read {q : Preamble} {after : List UInt8} (placed : p.Placed)
    (readable : read (p.toBytes ++ rest) = .ok (q, after)) : q = p := by
  obtain ⟨_, started, readable⟩ := bind_eq_ok.mp readable
  cases (readStart_toBytes placed.interesting rest).symm.trans started
  obtain ⟨_, fields, readable⟩ := bind_eq_ok.mp readable
  cases ((readFields_reads placed _).whole rest).symm.trans fields
  obtain ⟨_, readable⟩ := ensure_bind_eq_ok.mp readable
  obtain ⟨_, -, readable⟩ := bind_eq_ok.mp readable
  cases readable
  rfl

/-- Of a head with a window, what is read are the numbers that were written, whether or not
they fit together. -/
theorem read_numbers {q : Preamble} {after : List UInt8} (interesting : p.firstInteresting ≤ 63)
    (window : p.parts.window = true) (some : p.coupons ≠ 0)
    (readable : read (p.toBytes ++ rest) = .ok (q, after)) :
    q.precision = p.precision ∧ q.coupons = p.coupons ∧
      (p.parts.table = true → q.tableEntries = p.tableEntries) := by
  obtain ⟨_, started, readable⟩ := bind_eq_ok.mp readable
  cases (readStart_toBytes interesting rest).symm.trans started
  obtain ⟨⟨r, _⟩, fields, readable⟩ := bind_eq_ok.mp readable
  obtain ⟨_, readable⟩ := ensure_bind_eq_ok.mp readable
  obtain ⟨_, -, readable⟩ := bind_eq_ok.mp readable
  cases readable
  simp only [readFields, start, fieldBytes, if_neg some, window, Bool.or_true, Bool.and_true,
    List.append_assoc] at fields
  obtain ⟨⟨coupons, afterCoupons⟩, first, fields⟩ := bind_eq_ok.mp fields
  rw [readIf, if_pos rfl, (readWord_reads .coupons p.coupons).whole] at first
  cases first
  obtain ⟨⟨tableEntries, afterEntries⟩, entries, fields⟩ := bind_eq_ok.mp fields
  obtain ⟨_, -, fields⟩ := bind_eq_ok.mp fields
  obtain ⟨_, -, fields⟩ := bind_eq_ok.mp fields
  obtain ⟨_, -, fields⟩ := bind_eq_ok.mp fields
  obtain ⟨_, -, fields⟩ := bind_eq_ok.mp fields
  cases fields
  refine ⟨rfl, rfl, fun table => ?_⟩
  simp only [table, readIf, if_true, List.append_assoc,
    (readWord_reads .tableEntries p.tableEntries).whole] at entries
  cases entries
  rfl

end Preamble
end DistinctCount
