import DistinctCount.Proofs.SlotOrder

/-! Counting items apart and merging comes to the same as counting them together. The image
of a part is read as a counter of the coupons of its items, and a union sees nothing of its
counters but their cells, so it makes no difference how the items were shared out. -/
namespace DistinctCount

/-- Counters of the precision of a union come to the same where they have the same cells
together. -/
theorem Union.equivalent_of_cells {p : Precision} {seed : UInt64} {a b : List Sketch}
    (fullA : ∀ source ∈ a, source.precision = p ∧ accepts seed source = true)
    (fullB : ∀ source ∈ b, source.precision = p ∧ accepts seed source = true)
    (cells : ∀ cell, (∃ source ∈ a, cell ∈ source.bitMatrix.cells) ↔
      ∃ source ∈ b, cell ∈ source.bitMatrix.cells) : Equivalent p seed a b := by
  have takenA : accepted seed a = a := List.filter_eq_self.mpr fun source member => (fullA source member).2
  have takenB : accepted seed b = b := List.filter_eq_self.mpr fun source member => (fullB source member).2
  refine ⟨fun n bound => ?_, fun q _ _ cell => ?_⟩
  · rw [Finer, Finer, takenA, takenB]
    exact iff_of_true (fun source member _ => (fullA source member).1 ▸ bound)
      fun source member _ => (fullB source member).1 ▸ bound
  · obtain ⟨row, column⟩ := cell
    rw [Brings, Brings, takenA, takenB]
    simp only [mem_foldCells]
    constructor
    · rintro ⟨source, member, middle, folds, set⟩
      obtain ⟨other, listed, set⟩ := (cells _).mp ⟨source, member, set⟩
      exact ⟨other, listed, middle, folds, set⟩
    · rintro ⟨source, member, middle, folds, set⟩
      obtain ⟨other, listed, set⟩ := (cells _).mpr ⟨source, member, set⟩
      exact ⟨other, listed, middle, folds, set⟩

namespace Aggregate

variable {config : Config} {p : Precision} {s r : Sketch} {u : Union} {bytes : List UInt8}
  {items : List (List UInt8)} {inputs : List (Option (List UInt8))} {image : Option (List UInt8)}

/-! ### Counting items -/

def itemCell (p : Precision) (seed : UInt64) (item : List UInt8) : Nat × Nat :=
  (Pair.ofHash p (Hash.digest seed item)).cell

theorem updateAll_eq (settled : s.Settled) : updateAll items s =
    s.collectAll (items.map fun item => Pair.ofHash s.precision (Hash.digest s.seed item)) := by
  induction items generalizing s with
  | nil => rfl
  | cons item rest ih =>
    rw [updateAll, List.foldlM_cons, List.map_cons, Sketch.collectAll, Sketch.update]
    cases collected : s.collect (Pair.ofHash s.precision (Hash.digest s.seed item)) with
    | error fault => rfl
    | ok next =>
      have keeps := settled.collect_keeps collected
      rw [← keeps.precision, ← keeps.seed]
      exact ih keeps.settled

theorem updateAll_spec {seed : UInt64} (run : updateAll items (Sketch.new p seed) = .ok s) :
    s.Settled ∧ s.precision = p ∧ s.seed = seed ∧
      ∀ cell, (cell ∈ s.bitMatrix.cells ↔ ∃ item ∈ items, itemCell p seed item = cell) := by
  have fresh : (Sketch.new p seed).Settled := Sketch.new_settled p seed
  rw [updateAll_eq fresh] at run
  have inside : ∀ pair ∈ items.map fun item => Pair.ofHash p (Hash.digest seed item),
      pair.InRange p := by
    intro pair member
    obtain ⟨item, _, rfl⟩ := List.mem_map.mp member
    exact Pair.ofHash_inRange p _
  obtain ⟨precision, cells⟩ := Sketch.collectAll_cells inside run
  have keeps := fresh.collectAll_keeps run
  refine ⟨keeps.settled, precision, keeps.seed, fun cell => ?_⟩
  rw [cells, List.mem_toFinset, List.map_map, List.mem_map]
  rfl

/-! ### Images of items -/

theorem build_eq_ok (built : build config inputs = .ok image) :
    inputs.filterMap id = [] ∧ image = none ∨
      inputs.filterMap id ≠ [] ∧ ∃ p s bytes, config.precision = .ok p ∧
        updateAll (inputs.filterMap id) (Sketch.new p config.seed) = .ok s ∧
        s.toImage = .ok bytes ∧ image = some bytes := by
  rw [build] at built
  split at built
  · rename_i empty
    cases built
    exact Or.inl ⟨empty, rfl⟩
  · rename_i present
    obtain ⟨p, precision, built⟩ := bind_eq_ok.mp built
    obtain ⟨s, run, built⟩ := bind_eq_ok.mp built
    obtain ⟨bytes, written, built⟩ := bind_eq_ok.mp built
    cases built
    exact Or.inr ⟨present, p, s, bytes, Failure.ofError_eq_ok.mp precision,
      Failure.ofFault_eq_ok.mp run, Failure.ofFault_eq_ok.mp written, rfl⟩

theorem read_built (precision : config.precision = .ok p)
    (built : build config inputs = .ok (some bytes))
    (read : Sketch.ofImage config.seed bytes = .ok r) :
    r.precision = p ∧ ∀ cell, (cell ∈ r.bitMatrix.cells ↔
      ∃ item ∈ inputs.filterMap id, itemCell p config.seed item = cell) := by
  rcases build_eq_ok built with ⟨_, none⟩ | ⟨_, q, s, image, precisionQ, run, written, same⟩
  · contradiction
  · cases same
    cases precision.symm.trans precisionQ
    obtain ⟨settled, precisionS, seed, cells⟩ := updateAll_spec run
    rw [← seed] at read
    have alike := (settled.alike_of_read written read).1
    have settledR := (Sketch.ofImage_sound read).1
    refine ⟨alike.precision.symm.trans precisionS, fun cell => ?_⟩
    rw [← alike.bitMatrix_eq settled.toLayout settledR.toLayout]
    exact cells cell

/-! ### Merging images -/

theorem accepted_of_mergeAll {seed : UInt64} {images : List (List UInt8)} {v : Union}
    (run : mergeAll seed images u = .ok v) :
    ∀ image ∈ images, ∃ s, Sketch.ofImage seed image = .ok s := by
  induction images generalizing u with
  | nil => exact nofun
  | cons image rest ih =>
    rw [mergeAll, List.foldlM_cons] at run
    obtain ⟨next, first, run⟩ := bind_eq_ok.mp run
    obtain ⟨s, read, _⟩ := bind_eq_ok.mp first
    rintro other (_ | ⟨_, member⟩)
    · exact ⟨s, read⟩
    · exact ih run other member

theorem merge_eq_ok (merged : merge config inputs = .ok image) :
    inputs.filterMap id = [] ∧ image = none ∨
      inputs.filterMap id ≠ [] ∧ ∃ p u bytes, config.precision = .ok p ∧
        (∀ input ∈ inputs.filterMap id, ∃ s, Sketch.ofImage config.seed input = .ok s) ∧
        (Union.new p config.seed).updateAll (counters config.seed (inputs.filterMap id)) = .ok u ∧
        u.image = .ok bytes ∧ image = some bytes := by
  rw [merge] at merged
  split at merged
  · rename_i empty
    cases merged
    exact Or.inl ⟨empty, rfl⟩
  · rename_i present
    obtain ⟨p, precision, merged⟩ := bind_eq_ok.mp merged
    obtain ⟨u, run, merged⟩ := bind_eq_ok.mp merged
    obtain ⟨s, made, merged⟩ := bind_eq_ok.mp merged
    obtain ⟨bytes, written, merged⟩ := bind_eq_ok.mp merged
    cases merged
    have accepted := accepted_of_mergeAll run
    rw [mergeAll_eq accepted (Union.new_fits p config.seed).1 rfl] at run
    exact Or.inr ⟨present, p, u, bytes, Failure.ofError_eq_ok.mp precision, accepted,
      Failure.ofFault_eq_ok.mp run, bind_eq_ok.mpr ⟨s, Failure.ofFault_eq_ok.mp made,
        Failure.ofFault_eq_ok.mp written⟩, rfl⟩

/-! ### Items in parts -/

variable {parts : List (List (Option (List UInt8)))} {result : Option (List UInt8)}

def mergeParts (config : Config) (parts : List (List (Option (List UInt8)))) :
    Except Failure (Option (List UInt8)) := do
  merge config (← parts.mapM (build config))

theorem mergeParts_singleton (config : Config) (items : List (Option (List UInt8))) :
    mergeParts config [items] = build config items >>= fun image => merge config [image] := by
  simp [mergeParts, List.mapM_cons]

/-- Counters that were read from images of parts, with the cells of all items. -/
structure CountersOf (config : Config) (p : Precision) (parts : List (List (Option (List UInt8))))
    (sources : List Sketch) : Prop where
  valid : ∀ source ∈ sources, source.Valid
  full : ∀ source ∈ sources, source.precision = p ∧ Union.accepts config.seed source = true
  cells : ∀ cell, (∃ source ∈ sources, cell ∈ source.bitMatrix.cells) ↔
    ∃ item, some item ∈ parts.flatten ∧ itemCell p config.seed item = cell

theorem countersOf_built {images : List (Option (List UInt8))}
    (precision : config.precision = .ok p) (built : parts.mapM (build config) = .ok images)
    (accepted : ∀ input ∈ images.filterMap id, ∃ s, Sketch.ofImage config.seed input = .ok s) :
    CountersOf config p parts (counters config.seed (images.filterMap id)) := by
  obtain ⟨forth, back⟩ := mem_of_mapM_eq_ok built
  have origin {source : Sketch} (member : source ∈ counters config.seed (images.filterMap id)) :
      ∃ part ∈ parts, source.precision = p ∧ ∀ cell, (cell ∈ source.bitMatrix.cells ↔
        ∃ item ∈ part.filterMap id, itemCell p config.seed item = cell) := by
    obtain ⟨bytes, listed, read⟩ := mem_counters.mp member
    obtain ⟨image, present, rfl⟩ := List.mem_filterMap.mp listed
    obtain ⟨part, inParts, made⟩ := back _ present
    exact ⟨part, inParts, read_built precision made read⟩
  refine ⟨fun source member => (counters_sound source member).1, fun source member => ?_,
    fun cell => ⟨?_, ?_⟩⟩
  · obtain ⟨_, _, same, _⟩ := origin member
    exact ⟨same, (counters_sound source member).2⟩
  · rintro ⟨source, member, set⟩
    obtain ⟨part, inParts, _, cells⟩ := origin member
    obtain ⟨item, inPart, here⟩ := (cells cell).mp set
    exact ⟨item, List.mem_flatten.mpr ⟨part, inParts, by simpa using inPart⟩, here⟩
  · rintro ⟨item, inside, here⟩
    obtain ⟨part, inParts, inPart⟩ := List.mem_flatten.mp inside
    have listed : item ∈ part.filterMap id := by simpa using inPart
    obtain ⟨image, present, made⟩ := forth part inParts
    rcases build_eq_ok made with ⟨empty, _⟩ | ⟨_, _, _, bytes, _, _, _, rfl⟩
    · rw [empty] at listed
      contradiction
    have input : bytes ∈ images.filterMap id := List.mem_filterMap.mpr ⟨_, present, rfl⟩
    obtain ⟨source, read⟩ := accepted bytes input
    exact ⟨source, mem_counters.mpr ⟨bytes, input, read⟩,
      ((read_built precision made read).2 cell).mpr ⟨item, listed, here⟩⟩

theorem no_images_iff {images : List (Option (List UInt8))}
    (built : parts.mapM (build config) = .ok images) :
    images.filterMap id = [] ↔ ∀ item ∈ parts.flatten, item = none := by
  obtain ⟨forth, back⟩ := mem_of_mapM_eq_ok built
  constructor
  · intro none item inside
    obtain ⟨part, inParts, inPart⟩ := List.mem_flatten.mp inside
    obtain ⟨image, present, made⟩ := forth part inParts
    rcases build_eq_ok made with ⟨empty, _⟩ | ⟨_, _, _, bytes, _, _, _, rfl⟩
    · exact List.forall_none_of_filterMap_eq_nil empty item inPart
    · exact absurd (List.forall_none_of_filterMap_eq_nil none _ present) (by simp)
  · intro none
    rw [List.filterMap_eq_nil_iff]
    intro image present
    obtain ⟨part, inParts, made⟩ := back image present
    rcases build_eq_ok made with ⟨_, absent⟩ | ⟨some, _⟩
    · exact absent
    · refine (some (List.filterMap_eq_nil_iff.mpr fun item inPart => ?_)).elim
      exact none item (List.mem_flatten.mpr ⟨part, inParts, inPart⟩)

/-- Where there is an item, merging parts is merging counters that have the cells of all
items together; where there is none, there is no image. -/
theorem mergeParts_eq_ok (merged : mergeParts config parts = .ok result) :
    (∀ item ∈ parts.flatten, item = none) ∧ result = none ∨
      (¬ ∀ item ∈ parts.flatten, item = none) ∧ ∃ p sources u bytes,
        config.precision = .ok p ∧ CountersOf config p parts sources ∧
        (Union.new p config.seed).updateAll sources = .ok u ∧ u.image = .ok bytes ∧
        result = some bytes := by
  obtain ⟨images, built, merged⟩ := bind_eq_ok.mp merged
  rcases merge_eq_ok merged with ⟨none, absent⟩ | ⟨some, p, u, bytes, precision, accepted, run,
    written, present⟩
  · exact Or.inl ⟨(no_images_iff built).mp none, absent⟩
  · exact Or.inr ⟨mt (no_images_iff built).mpr some, p, _, u, bytes, precision,
      countersOf_built precision built accepted, run, written, present⟩

/-- Items that are counted apart, in whatever parts, and merged come to the same image as
when they are counted together. There is no image exactly where all items are absent. -/
theorem build_apart_eq_build_together (config : Config)
    (parts : List (List (Option (List UInt8)))) {apart together : Option (List UInt8)}
    (runApart : (do merge config (← parts.mapM (build config))) = .ok apart)
    (runTogether : (do merge config [← build config parts.flatten]) = .ok together) :
    apart = together ∧ (apart = none ↔ ∀ part ∈ parts, ∀ item ∈ part, item = none) := by
  have absent : (∀ part ∈ parts, ∀ item ∈ part, item = none) ↔
      ∀ item ∈ parts.flatten, item = none := by
    simp only [List.mem_flatten]
    exact ⟨fun none item ⟨part, inParts, inPart⟩ => none part inParts item inPart,
      fun none part inParts item inPart => none item ⟨part, inParts, inPart⟩⟩
  have whole : mergeParts config [parts.flatten] = .ok together :=
    (mergeParts_singleton config parts.flatten).trans runTogether
  have flat : [parts.flatten].flatten = parts.flatten := List.flatten_singleton
  rw [absent]
  rcases mergeParts_eq_ok runApart with ⟨none, rfl⟩ | ⟨some, p, sources, u, bytes, precision,
    countersA, runU, imageU, rfl⟩ <;>
    rcases mergeParts_eq_ok whole with ⟨noneW, rfl⟩ | ⟨someW, q, sourcesW, v, bytesW, precisionW,
      countersW, runV, imageV, rfl⟩
  · exact ⟨rfl, iff_of_true rfl none⟩
  · exact (someW (flat.symm ▸ none)).elim
  · exact (some (flat ▸ noneW)).elim
  · cases precision.symm.trans precisionW
    have equivalent := Union.equivalent_of_cells countersA.full countersW.full fun cell => by
      rw [countersA.cells, countersW.cells, flat]
    have same := equivalent.image_eq
      (fun source member => countersA.valid source (List.mem_of_mem_filter member))
      (fun source member => countersW.valid source (List.mem_of_mem_filter member)) runU runV
    rw [imageU, imageV] at same
    exact ⟨congrArg Option.some (Except.ok.inj same), iff_of_false (by simp) some⟩

/-- Two parts of twelve items, six of them in both, and between them a part whose only item
is absent. -/
def sharedParts : List (List (Option (List UInt8))) :=
  [(List.range' 0 12).map fun i => some [UInt8.ofNat i], [none],
    none :: (List.range' 6 12).map fun i => some [UInt8.ofNat i]]

theorem build_apart_eq_build_together_shared : ∃ image,
    (do merge ⟨4, 9001⟩ (← sharedParts.mapM (build ⟨4, 9001⟩))) = .ok (some image) ∧
    (do merge ⟨4, 9001⟩ [← build ⟨4, 9001⟩ sharedParts.flatten]) = .ok (some image) := by
  have shapeApart : (mergeParts ⟨4, 9001⟩ sharedParts).toOption.map Option.isSome = some true := by
    decide +kernel
  have shapeTogether :
      (mergeParts ⟨4, 9001⟩ [sharedParts.flatten]).toOption.map Option.isSome = some true := by
    decide +kernel
  obtain ⟨apart, runApart, present⟩ := exists_ok_of_map shapeApart
  obtain ⟨together, runTogether, _⟩ := exists_ok_of_map shapeTogether
  rw [mergeParts_singleton] at runTogether
  obtain ⟨rfl, _⟩ := build_apart_eq_build_together ⟨4, 9001⟩ sharedParts runApart runTogether
  obtain ⟨image, rfl⟩ := Option.isSome_iff_exists.mp present
  exact ⟨image, runApart, runTogether⟩

end Aggregate
end DistinctCount
