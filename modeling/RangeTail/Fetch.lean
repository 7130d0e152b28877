import RangeTail.ByteRange

/-!
This module contains requests on their way from being made to being answered.
-/

namespace RangeTail

/-- A request for a range. -/
structure Fetch where
  range : ByteRange
  /-- The source has heard of it. -/
  isUnderWay : Bool := false
  deriving DecidableEq, Repr

end RangeTail
