import DistinctCount.Aggregate
import DistinctCount.Proofs.Accepted
import DistinctCount.Proofs.Capacity
import DistinctCount.Proofs.DecodeFaults

/-! When the image of a merge can be read again. What is written of a merged counter is not
looked at as closely as what is read, and a matrix that comes about by a merge may have
more surprises beside its window than coupons, or a window past the last column. Where
it has not, merging images gives an image. -/
namespace DistinctCount

namespace BitMatrix

variable {p : Precision} {m : BitMatrix}

/-- The counter of a matrix has an image that is read back: its window ends at column 63
at the latest, and the surprises beside it are no more than the set cells and than a
table can be made of at once. A matrix with all of 2^32 cells set has the image of an
empty counter, since the number of its cells is kept in 32 bits. -/
def HasImage (p : Precision) (m : BitMatrix) : Prop :=
  m.count = 2 ^ 32 ∨
    windowOffset p m.count ≤ lastWindowOffset ∧
      BitMatrix.count (m.map (Sketch.surprises (windowOffset p m.count))) ≤
        min m.count (PairTable.initialCapacity p.pairBits)

instance : Decidable (m.HasImage p) := inferInstanceAs (Decidable (_ ∨ _))

theorem count_surprises (offset : Nat) (m : BitMatrix) :
    BitMatrix.count (m.map (Sketch.surprises offset)) = (Sketch.surpriseCells offset m).card :=
  count_eq_card _

theorem hasImage_of_few (few : 2 * m.count < p.rows) : m.HasImage p := by
  have room := p.rows_le_initialCapacity
  have start : windowOffset p m.count = 0 := windowOffset_eq_zero (by omega)
  have bound := @Sketch.card_surpriseCells_le m 0 (by decide)
  refine Or.inr ⟨by omega, ?_⟩
  rw [start, count_surprises]
  exact le_min (by omega) (by omega)

end BitMatrix

namespace Sketch

variable {s r : Sketch} {p : Precision} {m : BitMatrix} {seed : UInt64} {bytes : List UInt8}

theorem ofBitMatrix_total (seed : UInt64) (size : m.size = p.rows) (covered : m.Covered p)
    (few : m.count < 2 ^ 32)
    (fits : (surpriseCells (windowOffset p m.count) m).card ≤ PairTable.capacity p.pairBits) :
    ∃ s, ofBitMatrix p seed m = .ok s := by
  by_cases sparse : 32 * m.count < 3 * p.rows
  · obtain ⟨s, made, _⟩ := ofBitMatrix_sparse seed size covered sparse
    exact ⟨s, made⟩
  · have sixteen := p.sixteen_le_rows
    have four_le := p.four_le
    have le_twentySix := p.le_twentySix
    have count_le : m.count ≤ 64 * p.rows := size ▸ m.count_le
    have bound := windowOffset_lt count_le
    obtain ⟨table, created⟩ : ∃ table, PairTable.new (max (p.lgK - 4) 2) p.pairBits = .ok table := by
      rw [PairTable.new, if_neg (by omega), if_neg (by rw [Precision.pairBits]; omega)]
      exact ⟨_, rfl⟩
    obtain ⟨wellFormed, width, items⟩ := PairTable.new_spec created
    simp only [ofBitMatrix_eq, Nat.mod_eq_of_lt few]
    rw [if_neg (by omega), if_neg sparse, created]
    exact layOut_total (s := { newMerged p seed with numCoupons := m.count }) wellFormed width items
      size (by omega) (covered.not_surprise count_le) fits

section
variable {pairs : List Pair} (valid : s.Valid) (half : s.precision.rows ≤ 2 * s.numCoupons)
  (few : s.numCoupons < 2 ^ 32)
include valid half few

theorem Valid.head_numbers (pairs : List Pair) :
    (s.head pairs).coupons.toNat = s.numCoupons ∧ (s.head pairs).coupons ≠ 0 ∧
      (s.head pairs).firstInteresting ≤ 63 ∧ (s.head pairs).parts.window = true := by
  have positive := s.precision.rows_pos
  have column := valid.interesting.trans_lt valid.offset_lt
  obtain ⟨small, some⟩ := valid.imageWindow_size
  have coupons : (s.head pairs).coupons.toNat = s.numCoupons := UInt32.toNat_ofNat_of_lt' few
  have interesting : (s.head pairs).firstInteresting.toNat = s.firstInteresting :=
    UInt8.toNat_ofNat_of_lt' (column.trans (by decide))
  have words : (s.head pairs).windowWords.toNat = s.imageWindow.size :=
    UInt32.toNat_ofNat_of_lt' small
  refine ⟨coupons, fun zero => ?_, ?_, ?_⟩
  · have none : s.numCoupons = 0 := by
      rw [← coupons, zero]
      rfl
    omega
  · rw [UInt8.le_iff_toNat_le, interesting]
    exact Nat.le_of_lt_succ column
  · simp only [Preamble.parts, decide_eq_true_eq, UInt32.lt_iff_toNat_lt, words]
    exact some.mpr half

/-- Whatever is accepted for the image of a counter with a window has its precision and its
number of coupons, and the table entries of the image keep their limits. -/
theorem Valid.read_numbers (read : ofImage seed (s.imageOf pairs) = .ok r) :
    r.precision = s.precision ∧ r.numCoupons = s.numCoupons ∧
      ((s.head pairs).parts.table = true → (s.head pairs).tableEntries.toNat ≤
        min s.numCoupons (PairTable.initialCapacity s.precision.pairBits)) := by
  obtain ⟨image, rest, head, precision, numCoupons, _, _, limits⟩ := ofImage_head read
  rw [imageOf_eq, List.append_assoc] at head
  obtain ⟨coupons, some, interesting, window⟩ := valid.head_numbers half few pairs
  obtain ⟨samePrecision, sameCoupons, sameEntries⟩ :=
    Preamble.read_numbers interesting window some head
  have precision : r.precision = s.precision := precision.trans samePrecision
  rw [sameCoupons, coupons] at numCoupons
  refine ⟨precision, numCoupons, fun table => ?_⟩
  rwa [sameEntries table, numCoupons, precision] at limits

/-- What a counter with a window has to satisfy where its image is accepted. -/
theorem Valid.accepted_limits (fresh : s.FreshHistory) (written : s.toImage = .ok bytes)
    (read : ofImage seed bytes = .ok r) :
    s.offset ≤ lastWindowOffset ∧
      s.table.numItems ≤ min s.numCoupons (PairTable.initialCapacity s.precision.pairBits) := by
  rw [toImage] at written
  split at written
  · contradiction
  · rename_i pairs listed
    cases written
    obtain ⟨precision, numCoupons, limits⟩ := valid.read_numbers half few read
    have settledR := (ofImage_sound read).1
    -- The offset follows from the two numbers, and a reader refuses one that is too large.
    have within : s.offset ≤ lastWindowOffset := by
      rw [valid.offset_eq, ← precision, ← numCoupons, ← settledR.offset_eq]
      exact settledR.offset_le
    refine ⟨within, ?_⟩
    have settled : s.Settled := ⟨valid, within, fresh⟩
    cases (settled.imagePairs_windowed half).symm.trans listed
    have streamed := settled.codes_streamed half
    have length := s.length_codes
    rw [← settled.table.numItems] at length
    obtain ⟨_, entries, _⟩ := settled.head_fields streamed
    rw [entries, length] at limits
    rcases Nat.eq_zero_or_pos s.table.numItems with none | pairs
    · omega
    · apply limits
      rw [(settled.head_parts streamed).1, ← List.length_pos_iff, length]
      exact pairs

end

/-- A merged counter whose surprises are few enough has an image. -/
theorem Valid.storable (valid : s.Valid) (dropped : s.Dropped)
    (within : windowOffset s.precision s.numCoupons ≤ lastWindowOffset)
    (few : (surpriseCells (windowOffset s.precision s.numCoupons) s.bitMatrix).card ≤
      min s.numCoupons (PairTable.initialCapacity s.precision.pairBits)) :
    s.Settled ∧ s.Storable := by
  rw [← valid.offset_eq] at within few
  refine ⟨valid.settled_of_dropped dropped within, ⟨fun own => ?_, ?_⟩⟩
  · rw [dropped.1] at own
    contradiction
  · by_cases none : s.window = #[]
    · have rows := s.precision.rows_le
      have sparse := (windowed_eq_iff.mp valid.windowed).mp none
      rw [valid.numItems_sparse none]
      exact le_min (le_refl _) (by omega)
    · have limit := PairTable.initialCapacity_le_largest s.precision.pairBits
      rw [valid.numItems_eq none]
      omega

theorem newMerged_storable (p : Precision) (seed : UInt64) :
    (newMerged p seed).Settled ∧ (newMerged p seed).Storable :=
  ⟨newMerged_settled p seed, ⟨nofun, Nat.zero_le _⟩⟩

end Sketch

namespace Union

variable {u : Union}

/-- A union of all of 2^32 cells results in the empty counter. -/
theorem toSketch_full (fits : u.Fits) (full : u.state.bitMatrix.count = 2 ^ 32) :
    u.toSketch = .ok (Sketch.newMerged u.precision u.seed) := by
  obtain ⟨precision, seed, state⟩ := u
  cases state with
  | accumulator s =>
    have sparse := accumulator_sparse fits
    have rows := precision.rows_le
    simp only [State.bitMatrix] at full sparse
    omega
  | matrix rows => exact Sketch.ofBitMatrix_wrapped seed (by rw [State.bitMatrix] at full; rw [full])

theorem toSketch_total (fits : u.Fits) (less : u.state.bitMatrix.count < 2 ^ 32)
    (room : (Sketch.surpriseCells (windowOffset u.precision u.state.bitMatrix.count)
      u.state.bitMatrix).card ≤ PairTable.capacity u.precision.pairBits) :
    ∃ r, u.toSketch = .ok r := by
  have size := fits.size
  have covered := fits.covered
  obtain ⟨precision, seed, state⟩ := u
  cases state with
  | accumulator s =>
    simp only [toSketch]
    split
    · exact ⟨_, rfl⟩
    · exact ⟨_, rfl⟩
  | matrix m => exact Sketch.ofBitMatrix_total seed size covered less room

/-- The result of a union that has few enough surprises, or so many cells that they are lost. -/
theorem toSketch_storable (fits : u.Fits) (hasImage : u.state.bitMatrix.HasImage u.precision) :
    ∃ r, u.toSketch = .ok r ∧ r.Settled ∧ r.Storable ∧
      Hash.seedHash u.seed = Hash.seedHash r.seed := by
  rcases hasImage with full | ⟨within, few⟩
  · obtain ⟨settled, storable⟩ := Sketch.newMerged_storable u.precision u.seed
    exact ⟨_, toSketch_full fits full, settled, storable, rfl⟩
  · rw [BitMatrix.count_surprises] at few
    have rows := u.precision.rows_le
    have less : u.state.bitMatrix.count < 2 ^ 32 := by
      have bound := windowOffset_lt_iff.mp (Nat.lt_succ_of_le within)
      simp only [lastWindowOffset] at bound
      omega
    have room := (few.trans (min_le_right _ _)).trans (PairTable.initialCapacity_le _)
    obtain ⟨r, made⟩ := toSketch_total fits less room
    obtain ⟨valid, matrix, precision, hash, dropped⟩ := toSketch_spec fits less made
    rw [← matrix, ← precision, valid.count] at within few
    obtain ⟨settled, storable⟩ := valid.storable dropped within few
    exact ⟨r, made, settled, storable, hash.symm⟩

/-- The result of a union has an image that is accepted exactly where its matrix says so. -/
theorem image_accepted_iff (fits : u.Fits) :
    (∃ bytes r, u.image = .ok bytes ∧ Sketch.ofImage u.seed bytes = .ok r) ↔
      u.state.bitMatrix.HasImage u.precision := by
  constructor
  · rintro ⟨bytes, r, written, read⟩
    by_cases full : u.state.bitMatrix.count = 2 ^ 32
    · exact Or.inl full
    · have rows := u.precision.rows_le
      have bound := u.state.bitMatrix.count_le
      rw [fits.size] at bound
      obtain ⟨s, made, written⟩ := bind_eq_ok.mp written
      obtain ⟨valid, matrix, precision, _, dropped⟩ := toSketch_spec fits (by omega) made
      have few : s.numCoupons < 2 ^ 32 := by
        rw [← valid.count, matrix]
        omega
      rw [← matrix, ← precision]
      by_cases half : s.precision.rows ≤ 2 * s.numCoupons
      · obtain ⟨within, few⟩ := valid.accepted_limits half few dropped.freshHistory written read
        rw [valid.numItems_eq (valid.allocated half)] at few
        rw [BitMatrix.HasImage, BitMatrix.count_surprises, valid.count, ← valid.offset_eq]
        exact Or.inr ⟨within, few⟩
      · exact BitMatrix.hasImage_of_few (by rw [valid.count]; omega)
  · intro hasImage
    obtain ⟨s, made, settled, storable, hash⟩ := toSketch_storable fits hasImage
    obtain ⟨bytes, r, written, read, _⟩ := settled.ofImage_toImage storable hash
    exact ⟨bytes, r, bind_eq_ok.mpr ⟨s, made, written⟩, read⟩

theorem update_ne_error {source : Sketch} {error : Error} (accepting : accepts u.seed source = true) :
    u.update source ≠ .error (.error error) := by
  have hash : Hash.seedHash source.seed = Hash.seedHash u.seed := by simpa [accepts] using accepting
  simp only [update, hash, ne_eq, not_true, if_false]
  split
  · simp
  · split
    · split
      · simp
      · exact Failure.ofFault_ne_error
    · exact Failure.ofFault_ne_error

variable {seed : UInt64} {p : Precision} {sources : List Sketch}

theorem run_matrix (valid : ∀ source ∈ sources, source.Valid)
    (accepting : ∀ source ∈ sources, accepts seed source = true)
    (run : (new p seed).updateAll sources = .ok u) :
    u.Fits ∧ u.seed = seed ∧ u.state.bitMatrix = foldedOr u.precision sources := by
  have all : accepted seed sources = sources := List.filter_eq_self.mpr accepting
  obtain ⟨fits, sameSeed, _, cells⟩ := run_spec (by rwa [all]) run
  obtain ⟨size, folded⟩ := foldedOr_spec u.precision sources
  refine ⟨fits, sameSeed, BitMatrix.ext_cells (fits.size.trans size.symm) ?_⟩
  ext cell
  rw [folded, ← all]
  exact cells cell

end Union

namespace Aggregate

variable {config : Config} {p : Precision} {seed : UInt64} {u : Union} {images : List (List UInt8)}

def counters (seed : UInt64) (images : List (List UInt8)) : List Sketch :=
  images.filterMap fun image => (Sketch.ofImage seed image).toOption

theorem mem_counters {source : Sketch} : source ∈ counters seed images ↔
    ∃ image ∈ images, Sketch.ofImage seed image = .ok source := by
  rw [counters, List.mem_filterMap]
  refine exists_congr fun image => and_congr_right fun _ => ?_
  cases Sketch.ofImage seed image <;> simp [Except.toOption]

theorem counters_sound : ∀ source ∈ counters seed images,
    source.Valid ∧ Union.accepts seed source = true := by
  intro source member
  obtain ⟨image, _, read⟩ := mem_counters.mp member
  obtain ⟨settled, _, same⟩ := Sketch.ofImage_sound read
  exact ⟨settled.toValid, by rw [Union.accepts, same, beq_self_eq_true]⟩

theorem mergeAll_eq (accepted : ∀ image ∈ images, ∃ s, Sketch.ofImage seed image = .ok s)
    (fits : u.Fits) (same : u.seed = seed) :
    mergeAll seed images u = Failure.ofFault (u.updateAll (counters seed images)) := by
  induction images generalizing u with
  | nil => rfl
  | cons image rest ih =>
    obtain ⟨s, read⟩ := accepted image List.mem_cons_self
    have list : counters seed (image :: rest) = s :: counters seed rest := by
      simp [counters, read, Except.toOption]
    obtain ⟨valid, accepting⟩ := counters_sound s (list ▸ List.mem_cons_self)
    rw [list, mergeAll, Union.updateAll, List.foldlM_cons, List.foldlM_cons, read, ok_bind]
    cases updated : u.update s with
    | error failure =>
      cases failure with
      | error error => exact (Union.update_ne_error (same ▸ accepting) updated).elim
      | fault fault => rfl
    | ok next =>
      obtain ⟨_, fitsNext, seedNext, _⟩ := Union.update_spec fits valid updated
      exact ih (fun other member => accepted other (List.mem_cons_of_mem _ member)) fitsNext
        (seedNext.trans same)

theorem map_ofFault_eq_ok {result : Except Fault (List UInt8)} {bytes : List UInt8} :
    some <$> Failure.ofFault result = .ok (some bytes) ↔ result = .ok bytes := by
  cases result <;> simp [Failure.ofFault, Functor.map, Except.map]

/-- The image of a merge is that of the union of the counters. -/
theorem merge_eq {inputs : List (Option (List UInt8))} (lgK : config.lgK = p.lgK)
    (some_image : inputs.filterMap id ≠ [])
    (accepted : ∀ image ∈ inputs.filterMap id, ∃ s, Sketch.ofImage config.seed image = .ok s) :
    merge config inputs = some <$> Failure.ofFault ((Union.new p config.seed).updateAll
      (counters config.seed (inputs.filterMap id)) >>= Union.image) := by
  have precision : Failure.ofError config.precision = .ok p := by
    simp [Config.precision, Precision.ofNat, lgK, Failure.ofError]
  have all := mergeAll_eq accepted (Union.new_fits p config.seed).1 rfl
  obtain ⟨image, rest, present⟩ := List.exists_cons_of_ne_nil some_image
  rw [present] at all ⊢
  rw [merge, present]
  simp only [precision, all, ok_bind, Failure.ofFault_bind, Union.image, bind_assoc, map_eq_pure_bind]

theorem accepted_of_isOk (all : (images.all fun image => (Sketch.ofImage seed image).isOk) = true) :
    ∀ image ∈ images, ∃ s, Sketch.ofImage seed image = .ok s := by
  intro image member
  have ok := List.all_eq_true.mp all image member
  cases read : Sketch.ofImage seed image with
  | error failure =>
    rw [read] at ok
    contradiction
  | ok s => exact ⟨s, rfl⟩

/-- Images that are accepted are merged to an image that is accepted exactly where merging
their counters is no fault and the joined matrix has an image. It never ends in an error,
and it is no fault to merge counters whose precisions are near each other. -/
theorem merge_accepted_iff {inputs : List (Option (List UInt8))} (lgK : config.lgK = p.lgK)
    (some_image : inputs.filterMap id ≠ [])
    (accepted : ∀ image ∈ inputs.filterMap id, ∃ s, Sketch.ofImage config.seed image = .ok s) :
    (∀ error, merge config inputs ≠ .error (.error error)) ∧
    ((∃ bytes r, merge config inputs = .ok (some bytes) ∧ Sketch.ofImage config.seed bytes = .ok r) ↔
      ∃ u, (Union.new p config.seed).updateAll (counters config.seed (inputs.filterMap id)) = .ok u ∧
        (Union.foldedOr u.precision (counters config.seed (inputs.filterMap id))).HasImage u.precision) ∧
    (Union.Near p (counters config.seed (inputs.filterMap id)) →
      ∃ u, (Union.new p config.seed).updateAll (counters config.seed (inputs.filterMap id)) = .ok u) := by
  rw [merge_eq lgK some_image accepted]
  generalize sources_eq : counters config.seed (inputs.filterMap id) = sources
  have valid : ∀ source ∈ sources, source.Valid :=
    fun source member => (counters_sound source (sources_eq ▸ member)).1
  have accepting : ∀ source ∈ sources, Union.accepts config.seed source = true :=
    fun source member => (counters_sound source (sources_eq ▸ member)).2
  refine ⟨?_, ⟨?_, ?_⟩, ?_⟩
  · intro error
    cases (Union.new p config.seed).updateAll sources >>= Union.image <;>
      simp [Failure.ofFault, Functor.map, Except.map]
  · rintro ⟨bytes, r, merged, read⟩
    obtain ⟨u, run, written⟩ := bind_eq_ok.mp (map_ofFault_eq_ok.mp merged)
    obtain ⟨fits, seed, matrix⟩ := Union.run_matrix valid accepting run
    refine ⟨u, run, ?_⟩
    rw [← matrix, ← Union.image_accepted_iff fits, seed]
    exact ⟨bytes, r, written, read⟩
  · rintro ⟨u, run, hasImage⟩
    obtain ⟨fits, seed, matrix⟩ := Union.run_matrix valid accepting run
    rw [← matrix, ← Union.image_accepted_iff fits, seed] at hasImage
    obtain ⟨bytes, r, written, read⟩ := hasImage
    exact ⟨bytes, r, map_ofFault_eq_ok.mpr (bind_eq_ok.mpr ⟨u, run, written⟩), read⟩
  · intro near
    obtain ⟨fits, none⟩ := Union.new_fits p config.seed
    have all : Union.accepted (Union.new p config.seed).seed sources = sources :=
      List.filter_eq_self.mpr accepting
    exact Union.updateAll_total fits (by rwa [all]) (by rwa [all]) (Or.inl none)

/-- An image of 16 rows with 27 coupons in columns 9 and 10. -/
def lateImage : List UInt8 :=
  [0x06, 0x01, 0x10, 0x04, 0x00, 0x1a, 0xcc, 0x93, 0x1b, 0x00, 0x00, 0x00,
    0x1b, 0x00, 0x00, 0x00, 0x03, 0x00, 0x00, 0x00, 0x03, 0x00, 0x00, 0x00,
    0x66, 0x66, 0x66, 0x66, 0x66, 0x66, 0x66, 0x66, 0x00, 0x00, 0x00, 0x00,
    0x35, 0x4d, 0xd3, 0x34, 0x4d, 0xd3, 0x34, 0x4d, 0x33, 0x33, 0x13, 0x00]

/-- Two counters of 16 rows, merged for 32 rows, in the layout of a window at column 3. -/
theorem merge_accepted_iff_late : ∃ bytes r,
    merge ⟨5, 9001⟩ [some lateImage, none, some (Sketch.gapImage 0)] = .ok (some bytes) ∧
      Sketch.ofImage 9001 bytes = .ok r := by
  have accepted : ∀ image ∈ [some lateImage, none, some (Sketch.gapImage 0)].filterMap id,
      ∃ s, Sketch.ofImage 9001 image = .ok s := accepted_of_isOk (by decide +kernel)
  obtain ⟨_, closed, _⟩ :=
    @merge_accepted_iff ⟨5, 9001⟩ Precision.thirtyTwo _ rfl (by decide) accepted
  have merged : ((Union.new Precision.thirtyTwo 9001).updateAll
      (counters 9001 [lateImage, Sketch.gapImage 0])).toOption.map (fun u => decide
        ((Union.foldedOr u.precision (counters 9001 [lateImage, Sketch.gapImage 0])).HasImage
          u.precision)) = some true := by decide +kernel
  obtain ⟨u, run, hasImage⟩ := exists_ok_of_map merged
  exact closed.mpr ⟨u, run, of_decide_eq_true hasImage⟩

/-- An image of 16 rows with 27 coupons in columns 11 and 12. -/
def laterImage : List UInt8 :=
  [0x06, 0x01, 0x10, 0x04, 0x00, 0x1a, 0xcc, 0x93, 0x1b, 0x00, 0x00, 0x00,
    0x1b, 0x00, 0x00, 0x00, 0x04, 0x00, 0x00, 0x00, 0x03, 0x00, 0x00, 0x00,
    0x66, 0x66, 0x66, 0x66, 0x66, 0x66, 0x66, 0x66, 0x00, 0x00, 0x00, 0x00,
    0xd7, 0xd3, 0xd3, 0xd3, 0xd3, 0xd3, 0xd3, 0xd3, 0xd3, 0xd3, 0xd3, 0xf3,
    0x3c, 0xcf, 0x13, 0x00]

/-- Merged, the 54 coupons of these two images lie behind a window at column 1. With the 16
gaps before it the table has 70 pairs, so the image that is written is refused. -/
theorem merge_refused : ∃ bytes,
    (∀ image ∈ [lateImage, laterImage], ∃ s, Sketch.ofImage 9001 image = .ok s) ∧
      merge ⟨4, 9001⟩ [some lateImage, some laterImage] = .ok (some bytes) ∧
      ∀ r, Sketch.ofImage 9001 bytes ≠ .ok r := by
  have accepted : ∀ image ∈ [lateImage, laterImage], ∃ s, Sketch.ofImage 9001 image = .ok s :=
    accepted_of_isOk (by decide +kernel)
  have merged : ((Union.new Precision.least 9001).updateAll
      (counters 9001 [lateImage, laterImage])).toOption.map (fun u =>
        (decide (u.state.bitMatrix.HasImage u.precision), u.toSketch.toOption.map (·.offset))) =
      some (false, some 1) := by decide +kernel
  obtain ⟨u, run, parts⟩ := exists_ok_of_map merged
  obtain ⟨none, made⟩ := Prod.mk.inj parts
  obtain ⟨s, made, offset⟩ := exists_ok_of_map made
  obtain ⟨fits, seed, _⟩ := Union.run_matrix (fun source member => (counters_sound source member).1)
    (fun source member => (counters_sound source member).2) run
  obtain ⟨valid, dropped⟩ := Union.toSketch_valid fits made
  have settled : s.Settled := valid.settled_of_dropped dropped (by rw [offset]; decide)
  obtain ⟨bytes, written⟩ := settled.toImage_total
  have image : u.image = .ok bytes := bind_eq_ok.mpr ⟨s, made, written⟩
  refine ⟨bytes, accepted, ?_, fun r read => ?_⟩
  · rw [@merge_eq ⟨4, 9001⟩ Precision.least [some lateImage, some laterImage] rfl (by decide)
      accepted]
    exact map_ofFault_eq_ok.mpr (bind_eq_ok.mpr ⟨u, run, image⟩)
  · have hasImage := (Union.image_accepted_iff fits).mp ⟨bytes, r, image, by rw [seed]; exact read⟩
    exact of_decide_eq_false none hasImage

end Aggregate
end DistinctCount
