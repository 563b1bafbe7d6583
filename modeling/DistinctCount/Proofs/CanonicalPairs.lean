import DistinctCount.Proofs.PairCodec
import DistinctCount.Proofs.Results
import Mathlib.Data.Bool.AllAny
import Mathlib.Data.Finset.Card

/-! The stream of pairs has one form. Any ascending pairs are read back from their words,
and any words that can be read at all start with the bits that are written for the pairs
that come out. -/
namespace DistinctCount.PairStream

open Pair (vacant)

variable {pairs : List Pair}

theorem length_lt (ascending : pairs.Pairwise (· < ·)) (real : ∀ pair ∈ pairs, pair ≠ vacant) :
    pairs.length < 2 ^ 32 := by
  have distinct : (pairs.map UInt32.toNat).Nodup :=
    List.pairwise_map.mpr (ascending.imp fun less => (UInt32.lt_iff_toNat_lt.mp less).ne)
  have below : (pairs.map UInt32.toNat).toFinset ⊆ Finset.range (2 ^ 32 - 1) := by
    intro number member
    obtain ⟨pair, listed, rfl⟩ := List.mem_map.mp (List.mem_toFinset.mp member)
    have small := pair.toNat_lt
    have other : pair.toNat ≠ vacant.toNat := mt UInt32.toNat_inj.mp (real pair listed)
    have last : vacant.toNat = 2 ^ 32 - 1 := rfl
    exact Finset.mem_range.mpr (by omega)
  have few := Finset.card_le_card below
  rw [List.toFinset_card_of_nodup distinct, List.length_map, Finset.card_range] at few
  omega

/-- Strictly ascending pairs of any number are read back from their words. The number fits
a word, and what the reader leaves is zeros that fill up the last words. -/
theorem encode_read_back (p : Precision) (pairs : List Pair) (ascending : pairs.Pairwise (· < ·))
    (inside : ∀ pair ∈ pairs, pair.InRange p) :
    pairs.length < 2 ^ 32 ∧ decode p (encode p pairs) pairs.length = .ok pairs ∧
      ∃ after, decodeFrom p (encode p pairs) pairs.length = .ok (pairs.toArray, after) ∧
        ∃ left < 42, after.rest = List.replicate left false :=
  ⟨length_lt ascending fun pair member => (inside pair member).2, decode_encode ascending inside,
    decodeFrom_encode ascending inside⟩

/-- A row that is full, between pairs far from it. -/
def fullRowPairs : List Pair :=
  Pair.pack 0 17 :: (List.range 64).map (Pair.pack 7) ++ [Pair.pack 15 63]

theorem encode_read_back_full_row :
    decode Precision.least (encode Precision.least fullRowPairs) 66 = .ok fullRowPairs :=
  (encode_read_back Precision.least fullRowPairs (by decide +kernel)
    (List.all_iff_forall_prop.mp (by decide +kernel))).2.1

theorem writePairs_bits {base : Nat} (within : base ≤ 32) (pairs : List Pair) :
    (writePairs base 0 0 pairs .empty).bits = pairsCode base 0 0 pairs :=
  (writePairs_appends BitWriter.empty_sound within 0 0 pairs).bits

/-- Words that can be read have one form. Reading never looks outside the words or the
table of the code, nor at more than 32 bits. If it gives pairs, they are as many as asked
for, strictly ascending and coupons of the counter, and the bits up to where it stops are
those written for these pairs: other words that give the same pairs agree on them. And any
words that start with what is written for such pairs, and go on for a few bits, give them. -/
theorem decodeFrom_canonical (p : Precision) (words : Array UInt32) (count : Nat) :
    (∀ (r : BitReader) (width value : Nat), 0 < width → r.peek width = .ok value →
      r.position / 32 < r.words.size ∧ value < 2 ^ width) ∧ baseBits p count ≤ 32 ∧
    (∀ found after, decodeFrom p words count = .ok (found, after) →
      decode p words count = .ok found.toList ∧ found.size = count ∧
      found.toList.Pairwise (· < ·) ∧ (∀ pair ∈ found.toList, pair.InRange p) ∧
      after.words = words ∧ after.position ≤ 32 * words.size ∧
      (Bits.ofWords words.toList).take after.position =
        (writePairs (baseBits p count) 0 0 found.toList .empty).bits ∧
      ∀ other stop, decodeFrom p other count = .ok (found, stop) → stop.position = after.position ∧
        (Bits.ofWords other.toList).take after.position =
          (Bits.ofWords words.toList).take after.position) ∧
    ∀ pairs tail, pairs.length = count → pairs.Pairwise (· < ·) →
      (∀ pair ∈ pairs, pair.InRange p) → 10 ≤ baseBits p count + tail.length →
      Bits.ofWords words.toList = (writePairs (baseBits p count) 0 0 pairs .empty).bits ++ tail →
      ∃ after, decodeFrom p words count = .ok (pairs.toArray, after) ∧ after.rest = tail := by
  have within : baseBits p count ≤ 32 := (baseBits_le p count).trans (by decide)
  refine ⟨fun r width value some looked => BitReader.peek_within some looked, within, ?_, ?_⟩
  · intro found after read
    obtain ⟨size, ascending, coupons, takes⟩ := decodeFrom_sound read
    obtain ⟨sameWords, position, inside, taken⟩ := takes.of_start
    refine ⟨by rw [decode, read], size, ascending, coupons, sameWords, by rwa [position], ?_, ?_⟩
    · rw [position, taken, writePairs_bits within]
    · intro other stop readOther
      obtain ⟨_, stopPosition, _, takenOther⟩ := (decodeFrom_sound readOther).2.2.2.of_start
      exact ⟨stopPosition.trans position.symm, by rw [position, takenOther, taken]⟩
  · rintro pairs tail rfl ascending inside ahead bits
    rw [writePairs_bits within] at bits
    exact decodeFrom_eq ascending inside bits ahead

/-- Two pairs that take the low half of a word. Whatever words give them start with it. -/
theorem decodeFrom_canonical_half_word : ∃ after,
    decodeFrom Precision.least #[0xbeef939f] 2 =
      .ok (#[Pair.pack 3 5, Pair.pack 7 0], after) ∧ after.position = 16 ∧
    ∀ other stop, decodeFrom Precision.least other 2 =
        .ok (#[Pair.pack 3 5, Pair.pack 7 0], stop) →
      stop.position = 16 ∧ (Bits.ofWords other.toList).take 16 = Bits.ofNat 16 0x939f := by
  have known : (decodeFrom Precision.least #[0xbeef939f] 2).toOption.map
      (fun (found, after) => (found, after.position)) =
        some (#[Pair.pack 3 5, Pair.pack 7 0], 16) := by decide +kernel
  obtain ⟨⟨found, after⟩, read, parts⟩ := exists_ok_of_map known
  obtain ⟨rfl, position⟩ := Prod.mk.inj parts
  obtain ⟨_, _, _, _, _, _, _, agree⟩ := (decodeFrom_canonical _ _ _).2.2.1 _ _ read
  refine ⟨after, read, position, ?_⟩
  intro other stop readOther
  obtain ⟨stopPosition, taken⟩ := agree other stop readOther
  rw [position] at stopPosition taken
  exact ⟨stopPosition, taken.trans (by decide)⟩

end DistinctCount.PairStream
