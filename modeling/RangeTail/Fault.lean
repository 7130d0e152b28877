import RangeTail.ContentRange

/-!
This module contains the ways in which asking for a range can fail.
-/

namespace RangeTail

/-- Why a request for a range gave no bytes. -/
inductive Fault where
  /-- No answer arrived. -/
  | transport (cause : String)
  | aborted
  /-- The answer had another status than the one for a part of a file. -/
  | status (code : Nat)
  | contentRange (error : ContentRange.Error)
  /-- The file holds no byte of the range. -/
  | emptyFile (total : Nat)
  deriving DecidableEq, Repr

namespace Fault

/-- The class of a fault. -/
inductive Kind where
  | transport
  | protocol
  | emptyFile
  deriving DecidableEq, Repr

def kind : Fault → Kind
  | .transport _ => .transport
  | .aborted => .transport
  | .status _ => .protocol
  | .contentRange _ => .protocol
  | .emptyFile _ => .emptyFile

/-- An empty file is a state of the log, not a failure to read it. -/
def isRecoverable (f : Fault) : Bool :=
  f.kind == .emptyFile

/-- The status of the answer, where one arrived that is to blame. -/
def status? : Fault → Option Nat
  | .status code => some code
  | _ => none

def message : Fault → String
  | .transport cause => s!"transport error: {cause}"
  | .aborted => "request aborted"
  | .status code => s!"unexpected status {code}, expected 206 partial content"
  | .contentRange error => s!"bad content-range: {error.message}"
  | .emptyFile total => s!"empty file (total {total})"

end Fault
end RangeTail
