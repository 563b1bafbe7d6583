import DistinctCount.Text.Extending
import DistinctCount.Text.Hidden

/-! Text between quotation marks, with the characters that would end it, break
the line or not show written as escapes. -/
namespace DistinctCount.Text.Quoted

/-- What quotations may differ in. -/
structure Style where
  /-- Whether apostrophes are escaped. -/
  apostrophes : Bool
  /-- Whether marks that extend the character before them are escaped wherever they
  stand. At the start, where they would extend the quotation mark, they always are. -/
  extenders : Bool
deriving DecidableEq, Repr

/-- The escape by code point. -/
def numbered (c : Char) : List Char :=
  ['\\', 'u', '\x7b'] ++ Nat.toDigits 16 c.toNat ++ ['\x7d']

/-- Writes one character; `extender` says whether a mark that extends is escaped. -/
def escape (apostrophe extender : Bool) (c : Char) : List Char :=
  if c = '"' then ['\\', '"']
  else if c = '\\' then ['\\', '\\']
  else if c = '\n' then ['\\', 'n']
  else if c = '\r' then ['\\', 'r']
  else if c = '\t' then ['\\', 't']
  else if c.toNat = 0 then ['\\', '0']
  else if apostrophe && c = '\x27' then ['\\', c]
  else if isHidden c || extender && isExtending c then numbered c
  else [c]

def escapeAll (style : Style) : List Char → List Char
  | [] => []
  | c :: rest =>
    escape style.apostrophes true c ++ rest.flatMap (escape style.apostrophes style.extenders)

def encode (style : Style) (text : List Char) : List Char := '"' :: escapeAll style text ++ ['"']

end DistinctCount.Text.Quoted

namespace DistinctCount

def Text.quoted (style : Text.Quoted.Style) (text : String) : String :=
  String.ofList (Text.Quoted.encode style text.toList)

end DistinctCount
