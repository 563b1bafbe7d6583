import DistinctCount.Proofs.PrefixCodes

/-! What reading takes off a stream. A reader that gives a result has taken the bits of
that result and no others, whatever the words hold: for the words of a code this needs
that every input starts with one of them. -/
namespace DistinctCount

namespace BitReader

/-- One reader after another has taken these bits. -/
structure Takes (r : BitReader) (bits : List Bool) (after : BitReader) : Prop where
  moved : after = r.skip bits.length
  split : r.rest = bits ++ after.rest

variable {r next after : BitReader} {count value : Nat} {a b : List Bool}

theorem Takes.refl (r : BitReader) : r.Takes [] r := ⟨rfl, rfl⟩

theorem Takes.trans (first : r.Takes a next) (second : next.Takes b after) :
    r.Takes (a ++ b) after := by
  refine ⟨?_, ?_⟩
  · rw [second.moved, first.moved, skip_skip, List.length_append]
  · rw [first.split, second.split, List.append_assoc]

/-- What is taken from the start of some words are their bits up to the place reached. -/
theorem Takes.of_start {words : Array UInt32} (takes : (ofWords words).Takes a after) :
    after.words = words ∧ after.position = a.length ∧ a.length ≤ 32 * words.size ∧
      (Bits.ofWords words.toList).take a.length = a := by
  obtain ⟨rfl, split⟩ := takes
  have whole : Bits.ofWords words.toList = a ++ ((ofWords words).skip a.length).rest := split
  have length := congrArg List.length whole
  rw [Bits.length_ofWords, Array.length_toList, List.length_append] at length
  refine ⟨rfl, Nat.zero_add _, by omega, ?_⟩
  rw [whole, List.take_left]

theorem takes_of_split {tail : List Bool} (split : r.rest = a ++ tail) : r.Takes a (r.skip a.length) :=
  ⟨rfl, by rw [rest_skip, split, List.drop_left]⟩

/-- A look ahead that succeeds sees bits that are there. -/
theorem peek_sound (within : count ≤ 32) (looked : r.peek count = .ok value) :
    ∃ bits tail, bits.length = count ∧ r.rest = bits ++ tail ∧ value = Bits.toNat bits := by
  have enough : count ≤ r.rest.length := by
    by_contra short
    rw [rest, List.length_drop, Bits.length_ofWords, Array.length_toList] at short
    rw [peek, if_neg (by omega), if_pos (by omega)] at looked
    cases looked
  rw [peek_eq within enough] at looked
  exact ⟨r.rest.take count, r.rest.drop count, List.length_take_of_le enough,
    (List.take_append_drop count r.rest).symm, (Except.ok.inj looked).symm⟩

/-- A look ahead starts at a word that is there, and what it sees is the index of an entry
in a table for so many bits. -/
theorem peek_within (some : 0 < count) (looked : r.peek count = .ok value) :
    r.position / 32 < r.words.size ∧ value < 2 ^ count := by
  rw [peek, if_neg (by omega)] at looked
  split_ifs at looked with short
  cases looked
  exact ⟨by omega, Nat.mod_lt _ (Nat.two_pow_pos count)⟩

theorem read_takes (within : count ≤ 32) (read : r.read count = .ok (value, after)) :
    value < 2 ^ count ∧ r.Takes (Bits.ofNat count value) after := by
  unfold BitReader.read at read
  split at read
  · cases read
  · rename_i looked
    cases read
    obtain ⟨bits, tail, rfl, split, rfl⟩ := peek_sound within looked
    rw [Bits.ofNat_toNat rfl]
    exact ⟨Bits.toNat_lt bits, takes_of_split split⟩

/-- The zeros that are counted and the one behind them are what is taken. -/
theorem countZeros_takes {rounds start total : Nat}
    (counted : countZeros rounds start r = .ok (total, after)) :
    ∃ zeros, total = start + zeros ∧ r.Takes (List.replicate zeros false ++ [true]) after := by
  induction rounds generalizing r start with
  | zero => cases counted
  | succ rounds ih =>
    rw [countZeros] at counted
    split at counted
    · cases counted
    · rename_i looked
      obtain ⟨bits, tail, length, split, rfl⟩ := peek_sound (by decide) looked
      split_ifs at counted with none
      · obtain rfl : List.replicate 8 false = bits := by
          rw [← Bits.ofNat_toNat length, none, Bits.ofNat_zero]
        obtain ⟨zeros, rfl, later⟩ := ih counted
        refine ⟨8 + zeros, Nat.add_assoc .., ?_⟩
        rw [← List.replicate_append_replicate, List.append_assoc]
        exact (takes_of_split split).trans later
      · obtain ⟨zeros, more, rfl⟩ := Bits.toNat_ne_zero_iff.mp none
        have few : zeros < 8 := by
          rw [List.length_append, List.length_replicate, List.length_cons] at length
          omega
        rw [firstOne_toNat few] at counted
        cases counted
        refine ⟨zeros, rfl, ?_⟩
        rw [List.append_cons, List.append_assoc] at split
        simpa using takes_of_split split

theorem readUnary_takes {limit : Nat} (read : r.readUnary limit = .ok (value, after)) :
    value ≤ limit ∧ r.Takes (List.replicate value false ++ [true]) after := by
  unfold readUnary at read
  split at read
  · cases read
  · rename_i zeros next counted
    obtain ⟨zeros, rfl, takes⟩ := countZeros_takes counted
    split_ifs at read with beyond
    cases read
    rw [Nat.zero_add] at beyond ⊢
    exact ⟨Nat.le_of_not_lt beyond, takes⟩

end BitReader

namespace CodeWord

/-- Every input starts with the empty word. -/
theorem testBit_inputs_empty {input : Nat} (small : input < 2 ^ 12) :
    (inputs ⟨0, 0⟩).testBit input = true := by
  have bit := @testBit_spread 12 1 1 input (by decide) (by rwa [Nat.mul_one])
  rw [Nat.mod_one] at bit
  exact bit

/-- The inputs that start with one of some words, one bit an input. -/
def covered : List CodeWord → Nat
  | [] => 0
  | word :: rest => word.inputs ||| covered rest

theorem testBit_covered {words : List CodeWord} (short : ∀ word ∈ words, word.IsShort) {input : Nat}
    (small : input < 2 ^ 12) :
    (covered words).testBit input = true ↔ ∃ word ∈ words, input % 2 ^ word.length = word.bits := by
  induction words with
  | nil => simp [covered]
  | cons word rest ih =>
    rw [List.forall_mem_cons] at short
    rw [covered, Nat.testBit_or, Bool.or_eq_true, testBit_inputs short.1 small, ih short.2,
      decide_eq_true_iff]
    simp only [List.mem_cons, exists_eq_or_imp]

end CodeWord

namespace PrefixCode

variable {code : PrefixCode} {symbols symbol : Nat}

/-- Every twelve-bit input starts with the word of a symbol. -/
def Complete (code : PrefixCode) (symbols : Nat) : Prop :=
  ∀ input < 2 ^ 12, ∃ symbol < symbols,
    input % 2 ^ (code.word symbol).length = (code.word symbol).bits

/-- Words that share no input are a complete code if together they cover what the empty
word covers. -/
theorem ofEntries_complete {entries : List Nat}
    (free : CodeWord.areFree (entries.map CodeWord.ofEntry) 0 = true)
    (full : CodeWord.covered (entries.map CodeWord.ofEntry) = CodeWord.inputs ⟨0, 0⟩) :
    (ofEntries entries).Complete entries.length := by
  intro input small
  have short (word : CodeWord) (member : word ∈ entries.map CodeWord.ofEntry) : word.IsShort :=
    ((CodeWord.areFree_spec free).1 word member).1
  have covers : (CodeWord.covered (entries.map CodeWord.ofEntry)).testBit input = true := by
    rw [full, CodeWord.testBit_inputs_empty small]
  obtain ⟨word, member, starts⟩ := (CodeWord.testBit_covered short small).mp covers
  obtain ⟨symbol, inside, rfl⟩ := List.mem_iff_getElem.mp member
  rw [List.length_map] at inside
  refine ⟨symbol, inside, ?_⟩
  simpa [word, ofEntries, inside] using starts

theorem readSymbol_takes (readable : code.Readable symbols) (complete : code.Complete symbols)
    {r after : BitReader} (read : r.readSymbol code.tree = .ok (symbol, after)) :
    symbol < symbols ∧ r.Takes (code.word symbol).toList after := by
  obtain ⟨input, looked⟩ : ∃ input, r.peek 12 = .ok input := by
    unfold BitReader.readSymbol at read
    split at read
    · cases read
    · exact ⟨_, ‹_›⟩
  obtain ⟨bits, tail, length, split, rfl⟩ := BitReader.peek_sound (by decide) looked
  have enough : 12 ≤ r.rest.length := by
    rw [split, List.length_append]
    omega
  obtain ⟨found, inside, starts⟩ := complete _ (length ▸ Bits.toNat_lt bits)
  obtain ⟨⟨_, within, _⟩, _⟩ := readable found inside
  -- The input starts with a word, so the stream does, and this is the word that is found.
  have front : bits.take (code.word found).length = (code.word found).toList := by
    rw [CodeWord.toList_eq, ← starts, ← Bits.toNat_take,
      Bits.ofNat_toNat (List.length_take_of_le (length ▸ within))]
  rw [← List.take_append_drop (code.word found).length bits, front, List.append_assoc] at split
  obtain ⟨same, _⟩ := readSymbol_eq readable inside split enough
  rw [same] at read
  cases read
  have takes := BitReader.takes_of_split split
  rw [CodeWord.toList_eq, Bits.length_ofNat, ← CodeWord.toList_eq] at takes
  exact ⟨inside, takes⟩

end PrefixCode

theorem columnDeltaCode_complete : columnDeltaCode.Complete 65 :=
  PrefixCode.ofEntries_complete (by decide +kernel) (by decide +kernel)

namespace WindowCode

theorem entries_full : ∀ table ∈ entries,
    CodeWord.covered (table.map CodeWord.ofEntry) = CodeWord.inputs ⟨0, 0⟩ := by
  decide +kernel

theorem ofCount_complete (p : Precision) (coupons : Nat) : (ofCount p coupons).Complete 256 := by
  obtain ⟨table, member, chosen⟩ := exists_entries p coupons
  obtain ⟨length, free⟩ := entries_free table member
  rw [chosen, ← length]
  exact PrefixCode.ofEntries_complete free (entries_full table member)

end WindowCode

end DistinctCount
