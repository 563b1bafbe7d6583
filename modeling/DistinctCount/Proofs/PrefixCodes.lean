import DistinctCount.Code.Column
import DistinctCount.Code.Window
import DistinctCount.Proofs.BitStreams

/-! Prefix codes. Where no word of a code starts with another, the tree of the words
leads each word to its symbol, whatever bits come behind it. The tables are checked
for this with the set of twelve-bit inputs that start with a word, one bit an
input: the sets of different words have to be disjoint. -/
namespace DistinctCount

def Incomparable (a b : List Bool) : Prop := ¬ a <+: b ∧ ¬ b <+: a

theorem Incomparable.symm {a b : List Bool} (apart : Incomparable a b) : Incomparable b a :=
  And.symm apart

namespace CodeTree

/-- What is left of a tree at the end of a path. -/
def subtree : CodeTree → List Bool → CodeTree
  | tree, [] => tree
  | branch zero _, false :: path => subtree zero path
  | branch _ one, true :: path => subtree one path
  | _, _ :: _ => unused

variable {symbol other : Nat} {path : List Bool} {tree : CodeTree}

@[simp] theorem subtree_nil (tree : CodeTree) : tree.subtree [] = tree := by
  cases tree <;> rfl

theorem subtree_insert (symbol : Nat) (path : List Bool) (tree : CodeTree) :
    (insert symbol path tree).subtree path = leaf symbol := by
  induction path generalizing tree with
  | nil => cases tree <;> rfl
  | cons bit path ih => cases tree <;> cases bit <;> exact ih _

theorem exists_branch {bit : Bool} (reached : tree.subtree (bit :: path) = leaf symbol) :
    ∃ zero one, tree = branch zero one := by
  cases tree with
  | branch zero one => exact ⟨zero, one, rfl⟩
  | unused => cases bit <;> cases reached
  | leaf _ => cases bit <;> cases reached

/-- A word that starts with no other and starts no other leaves the others where
they are. -/
theorem subtree_insert_of_incomparable {added : List Bool} (apart : Incomparable added path)
    (reached : tree.subtree path = leaf symbol) :
    (insert other added tree).subtree path = leaf symbol := by
  induction added generalizing tree path with
  | nil => exact (apart.1 List.nil_prefix).elim
  | cons bit added ih =>
    cases path with
    | nil => exact (apart.2 List.nil_prefix).elim
    | cons first path =>
      obtain ⟨zero, one, rfl⟩ := exists_branch reached
      by_cases same : bit = first
      · subst same
        have below : Incomparable added path := by
          simpa [Incomparable, List.cons_prefix_cons] using apart
        cases bit <;> exact ih below reached
      · cases bit <;> cases first <;> first | exact (same rfl).elim | exact reached

theorem subtree_foldl_insert {entries : List (CodeWord × Nat)}
    (apart : ∀ entry ∈ entries, Incomparable entry.1.toList path)
    (reached : tree.subtree path = leaf symbol) :
    (entries.foldl (fun tree (word, symbol) => insert symbol word.toList tree) tree).subtree path =
      leaf symbol := by
  induction entries generalizing tree with
  | nil => exact reached
  | cons entry rest ih =>
    exact ih (fun later member => apart later (List.mem_cons_of_mem _ member))
      (subtree_insert_of_incomparable (apart entry List.mem_cons_self) reached)

/-- In the tree of words of which none starts another, each leads to its position. -/
theorem subtree_ofWords {words : List CodeWord} {word : CodeWord}
    (free : words.Pairwise fun a b => Incomparable a.toList b.toList)
    (here : words[symbol]? = some word) : (ofWords words).subtree word.toList = leaf symbol := by
  have step {entries : List (CodeWord × Nat)} {entry : CodeWord × Nat} (tree : CodeTree)
      (free : entries.Pairwise fun a b => Incomparable a.1.toList b.1.toList)
      (member : entry ∈ entries) :
      (entries.foldl (fun tree (word, symbol) => insert symbol word.toList tree) tree).subtree
        entry.1.toList = leaf entry.2 := by
    induction entries generalizing tree with
    | nil => cases member
    | cons first rest ih =>
      obtain ⟨apart, free⟩ := List.pairwise_cons.mp free
      rw [List.foldl_cons]
      rcases List.mem_cons.mp member with rfl | later
      · exact subtree_foldl_insert (fun other listed => (apart other listed).symm)
          (subtree_insert entry.2 _ tree)
      · exact ih _ free later
  have indexed : (words.zipIdx).Pairwise fun a b => Incomparable a.1.toList b.1.toList := by
    rw [← List.zipIdx_map_fst 0 words, List.pairwise_map] at free
    exact free
  exact step unused indexed (List.mem_zipIdx_iff_getElem?.mpr here : (word, symbol) ∈ _)

theorem find_eq (reached : tree.subtree path = leaf symbol) (tail : List Bool) (depth : Nat) :
    tree.find (Bits.toNat (path ++ tail)) depth = (symbol, depth + path.length) := by
  induction path generalizing tree depth with
  | nil =>
    rw [subtree_nil] at reached
    rw [reached, find]
    rfl
  | cons bit path ih =>
    obtain ⟨zero, one, rfl⟩ := exists_branch reached
    have half : Bits.toNat (bit :: path ++ tail) = bit.toNat + 2 * Bits.toNat (path ++ tail) := rfl
    rw [find, half, List.length_cons]
    cases bit with
    | false =>
      rw [if_pos (by simp), Bool.toNat_false, Nat.zero_add, Nat.mul_div_cancel_left _ (by decide),
        ih reached, Nat.add_right_comm, Nat.add_assoc]
    | true =>
      rw [if_neg (by simp [Nat.add_mod]), Bool.toNat_true,
        (by omega : (1 + 2 * Bits.toNat (path ++ tail)) / 2 = Bits.toNat (path ++ tail)),
        ih reached, Nat.add_right_comm, Nat.add_assoc]

end CodeTree

namespace CodeWord

variable {word a b : CodeWord}

theorem toList_eq (word : CodeWord) : word.toList = Bits.ofNat word.length word.bits :=
  (Bits.ofNat_eq_map word.length word.bits).symm

/-- A pattern of `width` bits, repeated `2 ^ times` over. -/
def spread : (times width pattern : Nat) → Nat
  | 0, _, pattern => pattern
  | times + 1, width, pattern => spread times (2 * width) (pattern ||| pattern <<< width)

theorem testBit_spread {times width pattern index : Nat} (small : pattern < 2 ^ width)
    (inside : index < 2 ^ times * width) :
    (spread times width pattern).testBit index = pattern.testBit (index % width) := by
  induction times generalizing width pattern with
  | zero =>
    rw [Nat.pow_zero, Nat.one_mul] at inside
    rw [spread, Nat.mod_eq_of_lt inside]
  | succ times ih =>
    have large : pattern < 2 ^ (2 * width) :=
      small.trans_le (Nat.pow_le_pow_right (by decide) (by omega))
    have shifted : pattern <<< width < 2 ^ (2 * width) := by
      rw [Nat.shiftLeft_eq, Nat.two_mul, Nat.pow_add]
      exact Nat.mul_lt_mul_of_pos_right small (Nat.two_pow_pos width)
    rw [Nat.pow_succ, Nat.mul_assoc] at inside
    rw [spread, ih (Nat.or_lt_two_pow large shifted) inside, Nat.testBit_or, Nat.testBit_shiftLeft,
      ← Nat.mod_mod_of_dvd index (Nat.dvd_mul_left width 2)]
    have below : index % (2 * width) < 2 * width := Nat.mod_lt _ (by
      rcases Nat.eq_zero_or_pos width with rfl | positive
      · simp at inside
      · omega)
    generalize index % (2 * width) = place at below
    rcases Nat.lt_or_ge place width with first | second
    · simp [Nat.mod_eq_of_lt first, Nat.not_le.mpr first]
    · have high : pattern.testBit place = false :=
        Nat.testBit_lt_two_pow (small.trans_le (Nat.pow_le_pow_right (by decide) second))
      rw [high, Nat.mod_eq_sub_mod second, Nat.mod_eq_of_lt (by omega)]
      simp [second]

/-- The twelve-bit inputs that start with a word, one bit an input. -/
def inputs (word : CodeWord) : Nat := spread (12 - word.length) (2 ^ word.length) (1 <<< word.bits)

def IsShort (word : CodeWord) : Prop :=
  1 ≤ word.length ∧ word.length ≤ 12 ∧ word.bits < 2 ^ word.length

theorem testBit_inputs (short : word.IsShort) {input : Nat} (small : input < 2 ^ 12) :
    word.inputs.testBit input = decide (input % 2 ^ word.length = word.bits) := by
  obtain ⟨_, within, bits⟩ := short
  have pattern : 1 <<< word.bits < 2 ^ 2 ^ word.length := by
    rw [Nat.one_shiftLeft]
    exact Nat.pow_lt_pow_right (by decide) bits
  have width : 2 ^ (12 - word.length) * 2 ^ word.length = 2 ^ 12 := by
    rw [← Nat.pow_add, Nat.sub_add_cancel within]
  rw [inputs, testBit_spread pattern (width ▸ small), Nat.one_shiftLeft, Nat.testBit_two_pow]
  exact decide_eq_decide.mpr eq_comm

/-- A word that another starts with shares an input with it. -/
theorem shared_input (shortB : b.IsShort) (starts : a.toList <+: b.toList) :
    b.bits < 2 ^ 12 ∧ b.bits % 2 ^ a.length = a.bits % 2 ^ a.length := by
  obtain ⟨_, within, bits⟩ := shortB
  refine ⟨bits.trans_le (Nat.pow_le_pow_right (by decide) within), ?_⟩
  obtain ⟨tail, whole⟩ := starts
  have value := congrArg Bits.toNat whole
  rw [toList_eq, toList_eq, Bits.toNat_append, Bits.toNat_ofNat, Bits.toNat_ofNat, Bits.length_ofNat,
    Nat.mod_eq_of_lt bits] at value
  rw [← value, Nat.add_mul_mod_self_left, Nat.mod_mod]

theorem incomparable (shortA : a.IsShort) (shortB : b.IsShort) (apart : a.inputs &&& b.inputs = 0) :
    Incomparable a.toList b.toList := by
  have never {input : Nat} (small : input < 2 ^ 12) (startsA : input % 2 ^ a.length = a.bits)
      (startsB : input % 2 ^ b.length = b.bits) : False := by
    have bit := congrArg (fun n => n.testBit input) apart
    simp [Nat.testBit_and, testBit_inputs shortA small, testBit_inputs shortB small, startsA,
      startsB] at bit
  have ownA : a.bits % 2 ^ a.length = a.bits := Nat.mod_eq_of_lt shortA.2.2
  have ownB : b.bits % 2 ^ b.length = b.bits := Nat.mod_eq_of_lt shortB.2.2
  constructor
  · intro starts
    obtain ⟨small, shared⟩ := shared_input shortB starts
    exact never small (shared.trans ownA) ownB
  · intro starts
    obtain ⟨small, shared⟩ := shared_input shortA starts
    exact never small ownA (shared.trans ownB)

/-- Whether words are short and share no input with each other or with those in
`seen`. -/
def areFree : List CodeWord → (seen : Nat) → Bool
  | [], _ => true
  | word :: rest, seen =>
    1 ≤ word.length && word.length ≤ 12 && word.bits < 2 ^ word.length &&
      seen &&& word.inputs == 0 && areFree rest (seen ||| word.inputs)

theorem areFree_spec {words : List CodeWord} {seen : Nat} (free : areFree words seen = true) :
    (∀ word ∈ words, word.IsShort ∧ seen &&& word.inputs = 0) ∧
      words.Pairwise fun a b => Incomparable a.toList b.toList := by
  induction words generalizing seen with
  | nil => simp
  | cons word rest ih =>
    simp only [areFree, Bool.and_eq_true, decide_eq_true_eq, beq_iff_eq] at free
    obtain ⟨⟨⟨⟨one, twelve⟩, bits⟩, apart⟩, later⟩ := free
    obtain ⟨short, pairwise⟩ := ih later
    have split {other : CodeWord} (clear : (seen ||| word.inputs) &&& other.inputs = 0) :
        seen &&& other.inputs = 0 ∧ word.inputs &&& other.inputs = 0 := by
      rwa [Nat.and_or_distrib_right, Nat.or_eq_zero_iff] at clear
    refine ⟨?_, List.pairwise_cons.mpr ⟨?_, pairwise⟩⟩
    · intro other member
      rcases List.mem_cons.mp member with rfl | member
      · exact ⟨⟨one, twelve, bits⟩, apart⟩
      · exact ⟨(short other member).1, (split (short other member).2).1⟩
    · intro other member
      exact incomparable ⟨one, twelve, bits⟩ (short other member).1 (split (short other member).2).2

end CodeWord

namespace PrefixCode

/-- Every symbol below `symbols` has a short word, and the tree leads it back. -/
def Readable (code : PrefixCode) (symbols : Nat) : Prop :=
  ∀ symbol < symbols, (code.word symbol).IsShort ∧
    code.tree.subtree (code.word symbol).toList = .leaf symbol

theorem ofEntries_readable {entries : List Nat}
    (free : CodeWord.areFree (entries.map CodeWord.ofEntry) 0 = true) :
    (ofEntries entries).Readable entries.length := by
  intro symbol inside
  obtain ⟨short, pairwise⟩ := CodeWord.areFree_spec free
  have bound : symbol < (entries.map CodeWord.ofEntry).length := by simpa using inside
  have here : (entries.map CodeWord.ofEntry)[symbol]? = some ((ofEntries entries).word symbol) := by
    simp [word, ofEntries, inside]
  exact ⟨(short _ (List.mem_of_getElem? here)).1, CodeTree.subtree_ofWords pairwise here⟩

/-- Reading takes a word off and gives its symbol, if twelve bits are there. -/
theorem readSymbol_eq {code : PrefixCode} {symbols symbol : Nat} (readable : code.Readable symbols)
    (inside : symbol < symbols) {r : BitReader} {tail : List Bool}
    (bits : r.rest = (code.word symbol).toList ++ tail) (ahead : 12 ≤ r.rest.length) :
    r.readSymbol code.tree = .ok (symbol, r.skip (code.word symbol).length) ∧
      (r.skip (code.word symbol).length).rest = tail := by
  obtain ⟨⟨_, within, _⟩, reached⟩ := readable symbol inside
  have length : (code.word symbol).toList.length = (code.word symbol).length := by
    rw [CodeWord.toList_eq, Bits.length_ofNat]
  have front : r.rest.take 12 = (code.word symbol).toList ++ tail.take (12 - (code.word symbol).length) := by
    rw [bits, List.take_append, length, List.take_of_length_le (by omega)]
  refine ⟨?_, by rw [BitReader.rest_skip, bits, List.drop_left' length]⟩
  rw [BitReader.readSymbol, BitReader.peek_eq (by decide) ahead, front]
  dsimp only
  rw [CodeTree.find_eq reached, Nat.zero_add, length]

theorem writeWord_appends {code : PrefixCode} {symbols symbol : Nat} (readable : code.Readable symbols)
    (inside : symbol < symbols) {w : BitWriter} (sound : w.Sound) :
    w.Appends (code.word symbol).toList (w.writeWord (code.word symbol)) := by
  obtain ⟨⟨_, within, small⟩, _⟩ := readable symbol inside
  rw [CodeWord.toList_eq]
  exact BitWriter.write_appends sound (by omega) small

end PrefixCode

theorem columnDeltaCode_readable : columnDeltaCode.Readable 65 :=
  PrefixCode.ofEntries_readable (by decide +kernel)

namespace WindowCode

theorem entries_free : ∀ table ∈ entries,
    table.length = 256 ∧ CodeWord.areFree (table.map CodeWord.ofEntry) 0 = true := by
  decide +kernel

theorem windowPhase_lt (p : Precision) (coupons : Nat) : windowPhase p coupons < 22 := by
  have remainder := Nat.mod_lt (coupons / 2 ^ (p.lgK - 4)) (by decide : 0 < 16)
  unfold windowPhase
  split_ifs <;> omega

/-- Whatever the number of coupons, the code of the window is one of the tables. -/
theorem exists_entries (p : Precision) (coupons : Nat) :
    ∃ table ∈ entries, ofCount p coupons = PrefixCode.ofEntries table := by
  have inside : windowPhase p coupons < entries.length := windowPhase_lt p coupons
  exact ⟨entries[windowPhase p coupons], List.getElem_mem inside, by simp [ofCount, codes, inside]⟩

theorem ofCount_readable (p : Precision) (coupons : Nat) : (ofCount p coupons).Readable 256 := by
  obtain ⟨table, member, chosen⟩ := exists_entries p coupons
  obtain ⟨length, free⟩ := entries_free table member
  rw [chosen, ← length]
  exact PrefixCode.ofEntries_readable free

end WindowCode
end DistinctCount
