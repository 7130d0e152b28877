import RangeTail.CommandLine.Complaint
import RangeTail.Cursor
import RangeTail.Tail.Event

/-!
This module contains the printing of a log, either of its end once or of all that is added to it.
-/

namespace RangeTail.CommandLine

/-- A log that is being printed. -/
structure Printing where
  tail : Tail
  cursor : Cursor := {}
  deriving DecidableEq, Repr

/-- The parts of the program that print a log together. -/
inductive Part where
  /-- The one that keeps what is known of the log. -/
  | tail
  /-- The one that prints it, and waits for the other one in the end. -/
  | printer
  deriving DecidableEq, Repr

namespace Part

/-- The code that the program ends with when a part has broken down. -/
def code : Part → Nat
  | .tail => 1
  | .printer => 101

/-- What the user is told then, without the number that the tail had while it ran. -/
def complaint : Part → String
  | .tail => Complaint.text { message := s!"task panicked with message \"{Overflow.message}\"" }
  | .printer => Overflow.message ++ "\n"

end Part

/-- How the printing of a log goes on. -/
inductive Verdict where
  | continues
  | done
  | failed (failure : Failure)
  /-- A part came on a sum that 64 bits do not hold, and broke down. -/
  | broken (part : Part)
  deriving DecidableEq, Repr

/-- What came of the printing of a log. -/
structure Printed where
  output : String := ""
  /-- The ranges that were asked for, in order. -/
  requests : List ByteRange := []
  verdict : Verdict
  /-- The tail as it was left, unless the printing broke down. -/
  tail : Option Tail
  deriving DecidableEq, Repr

namespace Printing

/-- Begin to print the log at a URL, at its end or at a position. -/
def launch (config : Config) (url : Url) (offset : Option Nat) (now : Nat) : Printing :=
  let t := Tail.ofConfig config url.text
  { tail := (offset.elim t t.withOffset).launch now }

/-- The range that an answer is waited for. -/
def request? (p : Printing) : Option ByteRange :=
  p.tail.inFlight.map (·.range)

/-- Whether the printing is over. A log that is not followed is read once. -/
def verdict (p : Printing) : Verdict :=
  if p.tail.config.follow then .continues
  else match p.tail.snapshot.failure with
    | some f => .failed f
    | none => if p.tail.snapshot.loading then .continues else .done

/-- The moment at which to ask again. -/
def due (p : Printing) (now : Nat) : Nat :=
  p.tail.pollDue.getD now

/-- Let the tail deal with an event, if it does not break down. -/
def handle? (p : Printing) (now : Nat) (e : Event) : Option Printing :=
  (p.tail.handle? now e).map fun tail => { p with tail }

/-- The text to print of the newest snapshot, if the printer does not break down. -/
def look? (p : Printing) : Option (String × Printing) :=
  (p.cursor.advance? p.tail.snapshot).map fun (text, cursor) => (text, { p with cursor })

/-- Stop. -/
def cancel (p : Printing) : Printing :=
  { p with tail := p.tail.cancel }

/-- The printing is over after the request for a range. -/
def ended (p : Printing) (range : ByteRange) (output : String) (verdict : Verdict) : Printed :=
  { output, requests := [range], verdict, tail := some p.cancel.tail }

/-- A part has broken down after the request for a range. -/
def brokenOff (range : ByteRange) (output : String) (part : Part) : Printed :=
  { output, requests := [range], verdict := .broken part, tail := none }

/--
Print a log whose requests are answered by one server after another. When there is none left the
user puts an end to it, and a request that is on its way is not answered.
-/
def run (p : Printing) (now : Nat) : List (ByteRange → Except Fault Chunk) → Printed
  | [] => { requests := p.request?.toList, verdict := .done, tail := some p.cancel.tail }
  | serve :: rest =>
    match p.request? with
    | none => { verdict := .done, tail := some p.cancel.tail }
    | some range =>
      match p.handle? now (.fetched (serve range)) with
      | none => brokenOff range "" .tail
      | some p =>
        match p.look? with
        | none => brokenOff range "" .printer
        | some (text, p) =>
          match p.verdict with
          | .continues =>
            match p.handle? (p.due now) .poll with
            | none => brokenOff range text .tail
            | some next =>
              let later := next.run (p.due now) rest
              { later with output := text ++ later.output, requests := range :: later.requests }
          | verdict => p.ended range text verdict

end Printing
end RangeTail.CommandLine
