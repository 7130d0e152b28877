import RangeTail.CommandLine.Arguments
import RangeTail.Config
import RangeTail.Fault
import RangeTail.Snapshot
import RangeTail.Url.Host

/-!
This module contains what the user is told when a command cannot do its work: what failed and, one
below the other, what brought it about.
-/

namespace RangeTail.CommandLine

/-- What failed, and why. -/
structure Complaint where
  message : String
  causes : List String := []
  deriving DecidableEq, Repr

namespace Complaint

/-- A cause among several, with its number in a column of five. -/
def numbered (n : Nat) (cause : String) : String :=
  let digits := toString n
  String.ofList (List.replicate (5 - digits.length) ' ') ++ digits ++ ": " ++ cause ++ "\n"

/-- The lines for the causes; one alone has no number. -/
def causeLines : List String → String
  | [] => ""
  | [cause] => "\nCaused by:\n    " ++ cause ++ "\n"
  | causes => "\nCaused by:\n" ++ String.join (causes.zipIdx.map fun (cause, n) => numbered n cause)

def text (c : Complaint) : String :=
  "Error: " ++ c.message ++ "\n" ++ causeLines c.causes

def ofConfigError (e : Config.Error) : Complaint where
  message := e.message
  causes := match e with
    | .unreadable _ cause => [cause]
    | _ => []

def ofUrlError (kind : String) (text : String) (e : Url.Error) : Complaint where
  message := s!"invalid {kind} '{text}'"
  causes := [e.message]

/-- The index at a URL cannot be had. -/
def ofFault (url : String) (f : Fault) : Complaint where
  message := s!"fetching {url}"
  causes := f.message :: match f with
    | .contentRange e => [e.message]
    | _ => []

/-- The log cannot be read. -/
def ofFailure (f : Failure) : Complaint where
  message := s!"{f.message} ({f.request.text})"

end Complaint

def Refusal.message : Refusal → String
  | .noCommand => "a command is required"
  | .unknownCommand word => s!"there is no command '{word}'"
  | .unexpected argument => s!"unexpected argument '{argument}'"
  | .repeated flag => s!"--{flag.name} cannot be given more than once"
  | .valueMissing flag => s!"a value is required for --{flag.name}"
  | .badValue flag value => s!"--{flag.name} cannot have the value '{value}'"
  | .wordMissing .index => "a base URL is required"
  | .wordMissing _ => "a URL is required"

end RangeTail.CommandLine
