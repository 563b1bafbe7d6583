import DistinctCount.LittleEndian

/-! The bytes under which values are counted. Equal values have equal bytes; values
of different types may share theirs, so a number counts as the same item in every
type of its width. -/
namespace DistinctCount

class Item (α : Type) where
  bytes : α → List UInt8

namespace Item

instance : Item UInt8 := ⟨fun x => [x]⟩
instance : Item UInt16 := ⟨LittleEndian.word16⟩
instance : Item UInt32 := ⟨LittleEndian.word32⟩
instance : Item UInt64 := ⟨LittleEndian.word64⟩
instance : Item Int8 := ⟨fun x => bytes x.toUInt8⟩
instance : Item Int16 := ⟨fun x => bytes x.toUInt16⟩
instance : Item Int32 := ⟨fun x => bytes x.toUInt32⟩
instance : Item Int64 := ⟨fun x => bytes x.toUInt64⟩

/-- A word of any whole number of bytes. -/
instance {width : Nat} : Item (BitVec (8 * width)) := ⟨fun x => LittleEndian.ofNat width x.toNat⟩

instance : Item Bool := ⟨fun b => [if b then 1 else 0]⟩
instance : Item Char := ⟨fun c => LittleEndian.word32 c.val⟩
instance : Item Unit := ⟨fun _ => []⟩

/-- A length goes before what it counts. -/
def ofLength (n : Nat) : List UInt8 := LittleEndian.ofNat 8 n

/-- The bytes of a text as such. -/
def ofText (text : String) : List UInt8 := text.toUTF8.toList

/-- A text among other values ends in a byte that no text contains. -/
instance : Item String := ⟨fun text => ofText text ++ [0xff]⟩

instance {α : Type} [Item α] : Item (List α) :=
  ⟨fun xs => ofLength xs.length ++ xs.flatMap bytes⟩

instance {α : Type} [Item α] : Item (Option α) :=
  ⟨fun
    | none => ofLength 0
    | some x => ofLength 1 ++ bytes x⟩

instance {α β : Type} [Item α] [Item β] : Item (α × β) := ⟨fun (x, y) => bytes x ++ bytes y⟩

/-- The bits of a double, the same for both zeros and for every NaN. -/
def canonicalBits (x : Float) : UInt64 := if x.isNaN then 0x7ff8000000000000 else (x + 0.0).toBits

instance : Item Float := ⟨fun x => bytes (canonicalBits x)⟩

/-- A single is counted as the double of its value. -/
instance : Item Float32 := ⟨fun x => bytes x.toFloat⟩

end Item
end DistinctCount
