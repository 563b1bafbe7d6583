import DistinctCount.BitStream.Reader
import DistinctCount.BitStream.Writer
import DistinctCount.Code.Window

/-! The bytes of a window as a bit stream, one code word a byte. -/
namespace DistinctCount.WindowStream

def writeBytes (code : PrefixCode) (window : List UInt8) (w : BitWriter) : BitWriter :=
  window.foldl (fun w byte => w.writeWord (code.word byte.toNat)) w

/-- The words of the window of a counter with this many coupons. They end in enough
zeros for a reader that looks twelve bits ahead. -/
def encode (p : Precision) (coupons : Nat) (window : Array UInt8) : Array UInt32 :=
  ((writeBytes (WindowCode.ofCount p coupons) window.toList .empty).pad 11).finish

def readBytes (tree : CodeTree) :
    (count : Nat) → BitReader → Array UInt8 → Except ImageError (Array UInt8 × BitReader)
  | 0, r, window => .ok (window, r)
  | count + 1, r, window =>
    match r.readSymbol tree with
    | .error e => .error e
    | .ok (symbol, r) => readBytes tree count r (window.push (UInt8.ofNat symbol))

/-- Reads one byte a row, and says where the reading stopped. -/
def decodeFrom (p : Precision) (coupons : Nat) (words : Array UInt32) :
    Except ImageError (Array UInt8 × BitReader) :=
  readBytes (WindowCode.ofCount p coupons).tree p.rows (.ofWords words) #[]

def decode (p : Precision) (coupons : Nat) (words : Array UInt32) :
    Except ImageError (Array UInt8) :=
  match decodeFrom p coupons words with
  | .error e => .error e
  | .ok (window, _) => .ok window

end DistinctCount.WindowStream
