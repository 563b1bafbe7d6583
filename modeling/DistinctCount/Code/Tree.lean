/-! Prefix codes. A code word is a short string of bits, and a code tree finds the
word that an input starts with. -/
namespace DistinctCount

/-- The `length` low bits of `bits`, least significant first. -/
structure CodeWord where
  bits : Nat
  length : Nat
deriving DecidableEq, Repr

namespace CodeWord

/-- Takes a word of at most twelve bits apart from its length. -/
def ofEntry (entry : Nat) : CodeWord := ⟨entry % 4096, entry / 4096⟩

def toList (word : CodeWord) : List Bool := (List.range word.length).map word.bits.testBit

end CodeWord

/-- A symbol sits at the end of the path that its code word spells. -/
inductive CodeTree where
  | unused
  | leaf (symbol : Nat)
  | branch (zero one : CodeTree)
deriving DecidableEq, Repr

namespace CodeTree

def insert (symbol : Nat) : List Bool → CodeTree → CodeTree
  | [], _ => leaf symbol
  | false :: path, branch zero one => branch (insert symbol path zero) one
  | true :: path, branch zero one => branch zero (insert symbol path one)
  | false :: path, _ => branch (insert symbol path unused) unused
  | true :: path, _ => branch unused (insert symbol path unused)

/-- The tree in which each symbol is the position of its word. -/
def ofWords (words : List CodeWord) : CodeTree :=
  words.zipIdx.foldl (fun tree (word, symbol) => insert symbol word.toList tree) unused

/-- The symbol that the bits of `input`, least significant first, start with, and
the length of its word. Bits that start no word give symbol 0 and are not used up;
a complete code has none. -/
def find : CodeTree → (input depth : Nat) → Nat × Nat
  | unused, _, _ => (0, 0)
  | leaf symbol, _, depth => (symbol, depth)
  | branch zero one, input, depth =>
    if input % 2 = 0 then find zero (input / 2) (depth + 1) else find one (input / 2) (depth + 1)

end CodeTree

/-- A prefix code: the word of each symbol, and the tree of all words. -/
structure PrefixCode where
  words : Array CodeWord
  tree : CodeTree

namespace PrefixCode

def ofEntries (entries : List Nat) : PrefixCode :=
  let words := entries.map CodeWord.ofEntry
  ⟨words.toArray, CodeTree.ofWords words⟩

def word (code : PrefixCode) (symbol : Nat) : CodeWord := code.words.getD symbol ⟨0, 0⟩

end PrefixCode
end DistinctCount
