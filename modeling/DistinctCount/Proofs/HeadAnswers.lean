import DistinctCount.Proofs.DecodeFaults
import DistinctCount.Proofs.Invariance
import DistinctCount.Sketch.Answers

/-! The head of an image tells what the whole counter tells. An accepted image has its
coupons counted and its history checked, so that the counter has the numbers of the head;
and the head that is written for a counter is read back, also where the history is left
out because it is that of an empty counter. -/
namespace DistinctCount

/-- A head and a counter tell the same. -/
structure Preamble.TellsAs (p : Preamble) (s : Sketch) : Prop where
  lgK : p.precision.lgK = s.precision.lgK
  coupons : p.coupons.toNat = s.numCoupons
  isEmpty : p.isEmpty = s.isEmpty
  merged : p.merged = s.merged
  estimate : p.estimate = s.estimate
  lowerBound : ∀ kappa, p.lowerBound kappa = s.lowerBound kappa
  upperBound : ∀ kappa, p.upperBound kappa = s.upperBound kappa

variable {p : Preamble} {s : Sketch} {seed : UInt64} {bytes : List UInt8}

theorem Preamble.tellsAs_of_eq (precision : p.precision = s.precision)
    (coupons : p.coupons.toNat = s.numCoupons) (merged : p.merged = s.merged)
    (history : p.hipState = s.hipState) : p.TellsAs s := by
  refine ⟨by rw [precision], coupons, ?_, merged, ?_, fun kappa => ?_, fun kappa => ?_⟩
  · rw [Preamble.isEmpty, Sketch.isEmpty, ← coupons, Bool.eq_iff_iff, beq_iff_eq, beq_iff_eq,
      ← UInt32.toNat_inj]
    rfl
  · rw [Preamble.estimate, Sketch.estimate, precision, coupons, merged, history]
  · rw [Preamble.lowerBound, Sketch.lowerBound, precision, coupons, merged, history]
  · rw [Preamble.upperBound, Sketch.upperBound, precision, coupons, merged, history]

theorem Preamble.ofImage_of_read {rest : List UInt8} (head : read bytes = .ok (p, rest)) :
    ofImage bytes = .ok p := by
  simp only [ofImage, head]

namespace Sketch

theorem tellsAs_of_ofImage (read : ofImage seed bytes = .ok s) :
    ∃ p, Preamble.ofImage bytes = .ok p ∧ p.TellsAs s := by
  obtain ⟨p, rest, head, precision, coupons, merged, history, _⟩ := ofImage_head read
  exact ⟨p, Preamble.ofImage_of_read head,
    Preamble.tellsAs_of_eq precision.symm coupons.symm merged.symm history.symm⟩

/-- A counter is written with a head that tells the same, even where its table has too many
pairs for the image to be read back. -/
theorem Settled.tellsAs_of_toImage (settled : s.Settled)
    (finite : s.merged = false →
      s.hipState.kxp.isFinite = true ∧ s.hipState.accumulated.isFinite = true)
    (few : s.table.numItems ≤ s.numCoupons) :
    ∃ bytes p, s.toImage = .ok bytes ∧ Preamble.ofImage bytes = .ok p ∧ p.TellsAs s := by
  obtain ⟨pairs, listed, written⟩ := settled.exists_written few
  obtain ⟨coupons, _⟩ := settled.head_fields written.toStreamed
  have head := Preamble.read_toBytes (settled.head_writable finite written)
    (wordsBytes s.imageWindow ++ wordsBytes (PairStream.encode s.precision (sortPairs pairs)))
  refine ⟨s.imageOf (sortPairs pairs), s.head (sortPairs pairs), ?_, ?_, ?_⟩
  · simp only [toImage, listed]
  · rw [imageOf_eq, List.append_assoc]
    exact Preamble.ofImage_of_read head
  · exact Preamble.tellsAs_of_eq rfl coupons rfl rfl

/-- The head of an image tells what the counter tells. Whatever bytes are accepted as an
image, their head alone can be read and tells what the counter read from the whole tells;
and every counter with its representation, a finite history and no more pairs than coupons
has an image, whose head tells what the counter tells. -/
theorem head_tells_as_counter :
    (∀ seed bytes (s : Sketch), ofImage seed bytes = .ok s →
      ∃ p, Preamble.ofImage bytes = .ok p ∧ p.TellsAs s) ∧
    ∀ s : Sketch, s.Representation →
      (s.merged = false →
        s.hipState.kxp.isFinite = true ∧ s.hipState.accumulated.isFinite = true) →
      s.table.numItems ≤ s.numCoupons →
      ∃ bytes p, s.toImage = .ok bytes ∧ Preamble.ofImage bytes = .ok p ∧ p.TellsAs s :=
  ⟨fun _ _ _ read => tellsAs_of_ofImage read,
    fun _ parts finite few => parts.settled.tellsAs_of_toImage finite few⟩

/-- The image of a merged counter with a gap before its window, and a counter with 62 coupons
and a history of its own. -/
theorem head_tells_as_counter_gapped :
    (∃ s p, ofImage 9001 (gapImage 0) = .ok s ∧ s.merged = true ∧
      Preamble.ofImage (gapImage 0) = .ok p ∧ p.TellsAs s) ∧
    ∃ s bytes p, (new Precision.least 9001).collectAll gappedCoupons = .ok s ∧
      s.numCoupons = 62 ∧ s.merged = false ∧ s.Representation ∧ s.toImage = .ok bytes ∧
      Preamble.ofImage bytes = .ok p ∧ p.TellsAs s ∧ p.parts.hip = true := by
  constructor
  · have shape : (ofImage 9001 (gapImage 0)).toOption.map (fun s => s.merged) = some true := by
      decide +kernel
    obtain ⟨s, read, merged⟩ := exists_ok_of_map shape
    obtain ⟨p, head, tells⟩ := head_tells_as_counter.1 9001 (gapImage 0) s read
    exact ⟨s, p, read, merged, head, tells⟩
  · obtain ⟨s, run, _, _, coupons, own, storable⟩ := exists_gapped
    have parts := ((new_settled _ 9001).collectAll_keeps run).settled.representation
    obtain ⟨bytes, p, written, head, tells⟩ := head_tells_as_counter.2 s parts storable.finite
      (storable.few.trans (min_le_left _ _))
    refine ⟨s, bytes, p, run, coupons, own, parts, written, head, tells, ?_⟩
    rw [Preamble.parts, tells.merged, own]
    rfl

end Sketch
end DistinctCount
