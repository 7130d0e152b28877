/-!
This module contains what the program says of itself and of values that it does not know.
-/

namespace RangeTail

def version : String := "0.1.0"

/-- A value for display, or a question mark where there is none. -/
def displayOrUnknown (value : Option String) : String :=
  value.getD "?"

end RangeTail
