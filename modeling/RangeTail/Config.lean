import RangeTail.Text.Decimal

/-!
This module contains the settings of a tail.
-/

namespace RangeTail

/-- The settings of a tail. Durations are in milliseconds. -/
structure Config where
  /-- Bytes asked for at once. -/
  chunkSize : Nat := 16384
  /-- From an answer to the next request while following. -/
  pollInterval : Nat := 500
  /-- From new data to the scrolling of the view. -/
  scrollSettle : Nat := 16
  /-- What a request may take; there is no limit if zero. -/
  requestTimeout : Nat := 30000
  /-- Follow from the start. -/
  follow : Bool := false
  /-- The query parameter that holds the offset. -/
  offsetParam : String := "offset"
  deriving DecidableEq, Repr, Inhabited

namespace Config

/-- Why a configuration cannot be had. -/
inductive Error where
  /-- The file cannot be read. -/
  | unreadable (path cause : String)
  /-- The text is no TOML document, or one with a value of the wrong type. -/
  | parse
  | invalid (what : String)
  deriving DecidableEq, Repr

namespace Error

def message : Error → String
  | .unreadable path cause => s!"io error reading {path}: {cause}"
  | .parse => "config parse error"
  | .invalid what => s!"invalid config: {what}"

end Error

/-- The limit on a request, if there is one. -/
def timeout? (c : Config) : Option Nat :=
  if 0 < c.requestTimeout then some c.requestTimeout else none

/-- Settings that can be worked with; the chunk size is judged first. -/
def validate (c : Config) : Except Error Config :=
  if c.chunkSize = 0 then .error (.invalid "chunk_size must be positive")
  else if c.offsetParam = "" then .error (.invalid "offset_param must not be empty")
  else .ok c

/-- The whole milliseconds of a duration, at most what 64 bits hold. -/
def wholeMillis (seconds nanoseconds : Nat) : Nat :=
  min (seconds * 1000 + nanoseconds / 1000000) maxOffset

end Config
end RangeTail
