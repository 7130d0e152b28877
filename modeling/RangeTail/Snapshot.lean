import RangeTail.ByteRange
import RangeTail.Fault
import RangeTail.Text.Decimal

/-!
This module contains the snapshots of a log that its observers are shown: the window that is held
of it, the text of the window, and what became of the last request.
-/

namespace RangeTail

/-- The last request, where it failed. -/
structure Failure where
  kind : Fault.Kind
  status : Option Nat
  message : String
  request : ByteRange
  /-- Milliseconds from the request to its failure. -/
  latency : Nat
  deriving DecidableEq, Repr

namespace Failure

def ofFault (fault : Fault) (request : ByteRange) (latency : Nat) : Failure where
  kind := fault.kind
  status := fault.status?
  message := fault.message
  request := request
  latency := latency

end Failure

/-- What is known of a log at one moment. A new snapshot is made by every change. -/
structure Snapshot where
  /-- Where the window begins in the file, once there is one. -/
  offset : Option Nat := none
  /-- Where the text of the window begins in the file. -/
  textOffset : Option Nat := none
  /-- The window. -/
  bytes : List UInt8 := []
  /-- The text of the window from its first full line on. -/
  text : Option String := none
  /-- The length of the file when it was last heard of. -/
  total : Nat := 0
  /-- Nothing has been heard of the file yet. -/
  loading : Bool := true
  /-- New data is asked for again and again. -/
  follow : Bool := false
  failure : Option Failure := none
  /-- The window is not UTF-8. -/
  decodeError : Bool := false
  deriving DecidableEq, Repr, Inhabited

namespace Snapshot

/-- The snapshot before anything has been heard of the file. -/
def initial : Snapshot := {}

def isLoaded (s : Snapshot) : Bool :=
  s.offset.isSome

/-- The position after the last byte of the window. It may be one that 64 bits do not hold. -/
def stop (s : Snapshot) : Option Nat :=
  s.offset.map (· + s.bytes.length)

/-- The same, if 64 bits hold it. -/
def stop? (s : Snapshot) : Option (Option Nat) :=
  match s.offset with
  | none => some none
  | some start => (Overflow.stops.sum start s.bytes.length).map some

/-- Whether the window reaches the end of the file. -/
def atEnd (s : Snapshot) : Bool :=
  s.stop.any (s.total ≤ ·)

def withFollow (s : Snapshot) (follow : Bool) : Snapshot :=
  { s with follow := follow }

/-- Note a failure; nothing else changes. -/
def withFailure (s : Snapshot) (failure : Failure) : Snapshot :=
  { s with failure := some failure }

/-- No byte could be served of a file of `total` bytes: the window is given up. -/
def emptied (s : Snapshot) (total : Nat) : Snapshot :=
  { initial with total := total, loading := false, follow := s.follow }

end Snapshot
end RangeTail
