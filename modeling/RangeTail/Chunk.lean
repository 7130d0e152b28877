import RangeTail.Text.Decimal

/-!
This module contains the bytes that answer a request.
-/

namespace RangeTail

/-- Bytes at a position of a file, and the length that the file had then. -/
structure Chunk where
  offset : Nat
  bytes : List UInt8
  total : Nat
  deriving DecidableEq, Repr

namespace Chunk

/-- The position after the last byte. It may be one that 64 bits do not hold. -/
def stop (c : Chunk) : Nat :=
  c.offset + c.bytes.length

/-- The same, if 64 bits hold it. The program stops where it comes on a position that they do not. -/
def stop? (c : Chunk) : Option Nat :=
  Overflow.stops.sum c.offset c.bytes.length

end Chunk
end RangeTail
