/-!
This module contains the byte ranges that are asked for.
-/

namespace RangeTail

/-- A part of a file to ask for. -/
inductive ByteRange where
  /-- The bytes from `first` through `last`; a server stops at the end of the file. -/
  | span (first last : Nat)
  /-- The last `length` bytes of the file. -/
  | suffix (length : Nat)
  deriving DecidableEq, Repr, Inhabited

namespace ByteRange

def text : ByteRange → String
  | .span first last => s!"{first}-{last}"
  | .suffix length => s!"-{length}"

/-- The value of a Range header that asks for the range. -/
def headerValue (r : ByteRange) : String :=
  "bytes=" ++ r.text

/-- The position of the first byte, where it is known before the answer. -/
def first? : ByteRange → Option Nat
  | .span first _ => some first
  | .suffix _ => none

end ByteRange
end RangeTail
