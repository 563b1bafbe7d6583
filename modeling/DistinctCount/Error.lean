import DistinctCount.Flavor
import DistinctCount.Report

/-! Why a request is refused. Each cause carries what its report mentions; the
wording is in one place. -/
namespace DistinctCount

/-- The parts of an image that can be cut short. -/
inductive ImagePart where
  | preambleInts
  | serialVersion
  | family
  | lgK
  | firstInteresting
  | flags
  | seedHash
  | coupons
  | tableEntries
  | kxp
  | hip
  | tableWords
  | windowWords
  | windowData
  | tableData
  | bitStream
deriving DecidableEq, Repr

def ImagePart.name : ImagePart → String
  | .preambleInts => "preamble_ints"
  | .serialVersion => "serial_version"
  | .family => "family_id"
  | .lgK => "lg_k"
  | .firstInteresting => "first_interesting_column"
  | .flags => "flags"
  | .seedHash => "seed_hash"
  | .coupons => "num_coupons"
  | .tableEntries => "table_num_entries"
  | .kxp => "kxp"
  | .hip => "hip_est_accum"
  | .tableWords => "table_data_words"
  | .windowWords => "window_data_words"
  | .windowData => "window_data"
  | .tableData => "table_data"
  | .bitStream => "compressed bit stream"

/-- Why bytes are not the image of a counter. -/
inductive ImageError where
  | truncated (part : ImagePart)
  | family (actual : UInt8)
  | serialVersion (actual : UInt8)
  | lgK (actual : UInt8)
  | firstInteresting (actual : UInt8)
  | uncompressed
  | preambleInts (expected : Nat) (actual : UInt8)
  | excessCoupons (coupons cells lgK : Nat)
  | excessEntries (entries coupons : Nat)
  | flags (table window : Bool) (flavor : Flavor) (coupons : Nat)
  | dataLength
  | noTableEntries
  | hipNotFinite
  | trailing (count : Nat)
  | unaryRange
  | row (row lgK : Nat)
  | columnDelta (delta column : Nat)
  | vacantPair
  | windowOffset (offset coupons : Nat)
  | pinnedColumn (code : Nat)
  | slidingColumn (code : Nat)
  | interestingPastOffset (column offset : Nat)
  | couponCount (decoded expected : Nat)
deriving DecidableEq, Repr

namespace ImageError

def lgKMessage (value : Nat) : String := s!"lg_k must be in [4, 26], got {value}"

def truth (b : Bool) : String := if b then "true" else "false"

def message : ImageError → String
  | .truncated part => "insufficient data to read " ++ part.name
  | .family actual => s!"invalid family: expected 16 (CPC), got {actual.toNat}"
  | .serialVersion actual => s!"unsupported serial version: expected 1, got {actual.toNat}"
  | .lgK actual => lgKMessage actual.toNat
  | .firstInteresting actual => s!"first_interesting_column out of range; got {actual.toNat}"
  | .uncompressed => "only compressed sketches are supported"
  | .preambleInts expected actual =>
    s!"invalid preamble ints: expected [{expected}], got {actual.toNat}"
  | .excessCoupons coupons cells lg => s!"{coupons} coupons exceed the {cells} cells of lg_k {lg}"
  | .excessEntries entries coupons => s!"{entries} table entries exceed {coupons} coupons"
  | .flags table window flavor _ =>
    "flags \x7btable: " ++ truth table ++ ", window: " ++ truth window ++
      "\x7d do not match flavor " ++ flavor.name
  | .dataLength => "data length disagrees with flags"
  | .noTableEntries => "table flag set without table entries"
  | .hipNotFinite => "HIP state is not finite"
  | .trailing count => s!"{count} trailing bytes after sketch data"
  | .unaryRange => "unary code exceeds the row range"
  | .row r lg => s!"row {r} out of range for lg_k {lg}"
  | .columnDelta delta column =>
    s!"column delta {delta} decodes to column {column}, which exceeds 63"
  | .vacantPair => "pair collides with the empty slot marker"
  | .windowOffset offset coupons =>
    s!"window offset {offset} implied by {coupons} coupons is past 56"
  | .pinnedColumn code => s!"pinned column code {code} is out of range"
  | .slidingColumn code => s!"sliding column code {code} is out of range"
  | .interestingPastOffset column offset =>
    s!"first interesting column {column} is past the window offset {offset}"
  | .couponCount decoded expected => s!"decoded data holds {decoded} coupons, expected {expected}"

def context : ImageError → List (String × String)
  | .truncated part => [("field", part.name)]
  | .flags _ _ _ coupons => [("num_coupons", s!"{coupons}")]
  | _ => []

end ImageError

inductive Error where
  /-- Bounds are known for 1, 2 and 3 standard deviations only. -/
  | deviations (value : Nat)
  | lgK (value : Nat)
  /-- Two counters, or a counter and its reader, disagree on the seed. -/
  | seedHash (expected actual : UInt16)
  | image (error : ImageError)
deriving DecidableEq, Repr

namespace Error

def kind : Error → Report.Kind
  | .deviations _ | .lgK _ => .invalidArgument
  | .seedHash _ _ => .seedMismatch
  | .image _ => .invalidData

/-- Four hexadecimal digits. -/
def hex16 (x : UInt16) : String :=
  let digits := Nat.toDigits 16 x.toNat
  String.ofList (List.replicate (4 - digits.length) '0' ++ digits)

def message : Error → String
  | .deviations value => s!"number of standard deviations must be 1, 2 or 3, got {value}"
  | .lgK value => ImageError.lgKMessage value
  | .seedHash expected actual =>
    "seed hash mismatch: expected 0x" ++ hex16 expected ++ ", got 0x" ++ hex16 actual
  | .image error => error.message

def context : Error → List (String × String)
  | .image error => error.context
  | _ => []

def report (error : Error) : Report := ⟨error.kind, error.message, error.context, none⟩

end Error

/-- Passes where a condition holds. -/
def ensure {ε : Type} (condition : Bool) (error : ε) : Except ε Unit :=
  if condition then .ok () else .error error

/-- How an operation on outside data can end without a result. -/
inductive Failure where
  | error (error : Error)
  | fault (fault : Fault)
deriving DecidableEq, Repr

namespace Failure

def ofError {α : Type} : Except Error α → Except Failure α
  | .ok a => .ok a
  | .error e => .error (.error e)

def ofImage {α : Type} : Except ImageError α → Except Failure α
  | .ok a => .ok a
  | .error e => .error (.error (.image e))

def ofFault {α : Type} : Except Fault α → Except Failure α
  | .ok a => .ok a
  | .error f => .error (.fault f)

end Failure

/-- A precision given as a number, or the error that names it. -/
def Precision.ofNat (lgK : Nat) : Except Error Precision :=
  match Precision.ofNat? lgK with
  | some p => .ok p
  | none => .error (.lgK lgK)

/-- A precision given as a number that is required to be one. -/
def Precision.require (lgK : Nat) : Except Fault Precision :=
  match Precision.ofNat? lgK with
  | some p => .ok p
  | none => .error (.precision lgK)

end DistinctCount
