import DistinctCount.Error
import DistinctCount.Estimate.Hip

/-! The head of an image. Eight bytes are always there:

* the length of the head in 32-bit units, the version of the format, its family;
* the precision, the first interesting column, the flags;
* two bytes of seed hash.

An image with coupons goes on with the number of coupons. Where both a table and a
window follow, the number of table entries and then the historical state come next;
then the lengths of the table and of the window data in words, each where there is
such data; and the historical state comes last where it did not come before. -/
namespace DistinctCount

structure Preamble where
  precision : Precision
  firstInteresting : UInt8
  seedHash : UInt16
  coupons : UInt32
  /-- How many pairs the table data holds; all coupons where there is no window. -/
  tableEntries : UInt32
  tableWords : UInt32
  windowWords : UInt32
  merged : Bool
  /-- Written where the counter is not merged; otherwise that of an empty counter. -/
  hipState : Hip

namespace Preamble

/-- Which optional parts an image has. -/
structure Parts where
  hip : Bool
  table : Bool
  window : Bool
deriving DecidableEq, Repr

def version : UInt8 := 1

def family : UInt8 := 16

/-- Bit 1 says that the data is compressed, which it always is. -/
def Parts.flags (parts : Parts) : UInt8 :=
  2 ||| (if parts.hip then 4 else 0) ||| (if parts.table then 8 else 0) |||
    (if parts.window then 16 else 0)

def isFlagSet (flags : UInt8) (bit : Nat) : Bool := flags.toNat.testBit bit

def Parts.ofFlags (flags : UInt8) : Parts :=
  ⟨isFlagSet flags 2, isFlagSet flags 3, isFlagSet flags 4⟩

/-- The length of the head in 32-bit units. -/
def Parts.units (parts : Parts) (coupons : UInt32) : Nat :=
  if coupons = 0 then 2
  else
    3 + (if parts.hip then 4 else 0) +
      (if parts.table then (if parts.window then 2 else 1) else 0) +
      (if parts.window then 1 else 0)

def parts (p : Preamble) : Parts := ⟨!p.merged, 0 < p.tableWords, 0 < p.windowWords⟩

/-- The length of the whole image in bytes. -/
def imageSize (p : Preamble) : Nat :=
  4 * (p.parts.units p.coupons + p.tableWords.toNat + p.windowWords.toNat)

def hipBytes (hip : Hip) : List UInt8 :=
  LittleEndian.word64 hip.kxp.toBits ++ LittleEndian.word64 hip.accumulated.toBits

def toBytes (p : Preamble) : List UInt8 :=
  let parts := p.parts
  let both := parts.table && parts.window
  let history := if parts.hip then hipBytes p.hipState else []
  [UInt8.ofNat (parts.units p.coupons), version, family, UInt8.ofNat p.precision.lgK,
      p.firstInteresting, parts.flags] ++
    LittleEndian.word16 p.seedHash ++
    if p.coupons = 0 then []
    else
      LittleEndian.word32 p.coupons ++
        (if both then LittleEndian.word32 p.tableEntries ++ history else []) ++
        (if parts.table then LittleEndian.word32 p.tableWords else []) ++
        (if parts.window then LittleEndian.word32 p.windowWords else []) ++
        (if both then [] else history)

/-- Reads a number of `width` bytes. -/
def readNat (width : Nat) (part : ImagePart) (bytes : List UInt8) :
    Except ImageError (Nat × List UInt8) :=
  if (bytes.take width).length < width then .error (.truncated part)
  else .ok (LittleEndian.toNat (bytes.take width), bytes.drop width)

def readByte (part : ImagePart) : List UInt8 → Except ImageError (UInt8 × List UInt8)
  | [] => .error (.truncated part)
  | byte :: bytes => .ok (byte, bytes)

def readWord (part : ImagePart) (bytes : List UInt8) : Except ImageError (UInt32 × List UInt8) := do
  let (n, bytes) ← readNat 4 part bytes
  return (UInt32.ofNat n, bytes)

def readFloat (part : ImagePart) (bytes : List UInt8) : Except ImageError (Float × List UInt8) := do
  let (n, bytes) ← readNat 8 part bytes
  return (Float.ofBits (UInt64.ofNat n), bytes)

def readHip (bytes : List UInt8) : Except ImageError (Hip × List UInt8) := do
  let (kxp, bytes) ← readFloat .kxp bytes
  let (accumulated, bytes) ← readFloat .hip bytes
  return (⟨kxp, accumulated⟩, bytes)

/-- The first eight bytes, less version and family. -/
structure Start where
  units : UInt8
  precision : Precision
  firstInteresting : UInt8
  parts : Parts
  seedHash : UInt16
deriving DecidableEq, Repr

def readPrecision (byte : UInt8) : Except ImageError Precision :=
  match Precision.ofNat? byte.toNat with
  | some p => .ok p
  | none => .error (.lgK byte)

def readStart (bytes : List UInt8) : Except ImageError (Start × List UInt8) := do
  let (units, bytes) ← readByte .preambleInts bytes
  let (serialVersion, bytes) ← readByte .serialVersion bytes
  let (familyId, bytes) ← readByte .family bytes
  ensure (familyId == family) (.family familyId)
  ensure (serialVersion == version) (.serialVersion serialVersion)
  let (lgK, bytes) ← readByte .lgK bytes
  let precision ← readPrecision lgK
  let (firstInteresting, bytes) ← readByte .firstInteresting bytes
  ensure (firstInteresting ≤ 63) (.firstInteresting firstInteresting)
  let (flags, bytes) ← readByte .flags bytes
  ensure (isFlagSet flags 1) .uncompressed
  let (seedHash, bytes) ← readNat 2 .seedHash bytes
  return (⟨units, precision, firstInteresting, Parts.ofFlags flags, UInt16.ofNat seedHash⟩, bytes)

/-- Reads a part that an image may lack, with a value for where it does. -/
def readIf {α : Type} (present : Bool) (absent : α)
    (read : List UInt8 → Except ImageError (α × List UInt8)) (bytes : List UInt8) :
    Except ImageError (α × List UInt8) :=
  if present then read bytes else .ok (absent, bytes)

/-- Reads the head without looking at whether its numbers fit together. -/
def readFields (start : Start) (bytes : List UInt8) :
    Except ImageError (Preamble × List UInt8) := do
  let parts := start.parts
  let anyData := parts.table || parts.window
  let both := parts.table && parts.window
  let hip := Hip.start start.precision
  let (coupons, bytes) ← readIf anyData 0 (readWord .coupons) bytes
  let (tableEntries, bytes) ←
    readIf both (if parts.table then coupons else 0) (readWord .tableEntries) bytes
  let (hip, bytes) ← readIf (both && parts.hip) hip readHip bytes
  let (tableWords, bytes) ← readIf parts.table 0 (readWord .tableWords) bytes
  let (windowWords, bytes) ← readIf parts.window 0 (readWord .windowWords) bytes
  let (hip, bytes) ← readIf (anyData && !both && parts.hip) hip readHip bytes
  let preamble :=
    { precision := start.precision
      firstInteresting := start.firstInteresting
      seedHash := start.seedHash
      coupons := coupons
      tableEntries := tableEntries
      tableWords := tableWords
      windowWords := windowWords
      merged := !parts.hip
      hipState := hip }
  return (preamble, bytes)

/-- Whether an image of this flavor has just these parts. -/
def Parts.fit (parts : Parts) : Flavor → Bool
  | .empty => !parts.table && !parts.window
  | .sparse | .hybrid => parts.table && !parts.window
  | .pinned | .sliding => parts.window

def hipFinite (p : Preamble) : Bool :=
  p.merged || p.hipState.kxp.isFinite && p.hipState.accumulated.isFinite

/-- Checks that numbers and flags fit the flavor that the number of coupons implies. -/
def check (p : Preamble) (parts : Parts) : Except ImageError Unit := do
  let coupons := p.coupons.toNat
  let flavor := Flavor.ofCount p.precision coupons
  ensure (coupons ≤ p.precision.cells) (.excessCoupons coupons p.precision.cells p.precision.lgK)
  ensure (p.tableEntries ≤ p.coupons) (.excessEntries p.tableEntries.toNat coupons)
  ensure (parts.fit flavor) (.flags parts.table parts.window flavor coupons)
  ensure (parts.table == p.parts.table && parts.window == p.parts.window) .dataLength
  ensure (!parts.table || p.tableEntries != 0) .noTableEntries
  ensure p.hipFinite .hipNotFinite

/-- Reads a head and returns what follows it. -/
def read (bytes : List UInt8) : Except ImageError (Preamble × List UInt8) := do
  let (start, bytes) ← readStart bytes
  let (preamble, bytes) ← readFields start bytes
  let units := start.parts.units preamble.coupons
  ensure (units == start.units.toNat) (.preambleInts units start.units)
  preamble.check start.parts
  return (preamble, bytes)

end Preamble
end DistinctCount
