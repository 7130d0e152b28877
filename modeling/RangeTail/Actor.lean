import RangeTail.Session

/-!
This module contains tails that work by themselves and are told what to do from outside. Those who
hold a handle send commands, which are done one after another; when nobody holds one any more, or
one of them is to cancel, the tail stops for good.
-/

namespace RangeTail

/-- A tail that works by itself. -/
structure Actor where
  session : Session
  /-- The number of those who can send commands. -/
  handles : Nat := 1
  /-- The commands that were sent and not done. -/
  mailbox : List Command := []
  isStopped : Bool := false
  deriving DecidableEq, Repr

namespace Actor

/-- Let a tail work by itself. -/
def ofSession (s : Session) : Actor where
  session := { s with tail := s.tail.launch s.now }

/-- Stop for good. -/
def stop (a : Actor) : Actor :=
  { a with session := a.session.apply .cancel, mailbox := [], isStopped := true }

/-- Do the first thing that is to be done at this moment, if there is one. Commands come first. -/
def turn (a : Actor) : Option Actor :=
  if a.isStopped then none
  else match a.mailbox with
    | .cancel :: _ => some a.stop
    | c :: rest => some { a with session := a.session.apply c, mailbox := rest }
    | [] =>
      if a.handles = 0 then some a.stop
      else match a.session.contact.ready with
        | e :: _ => some { a with session := a.session.contact.fire e }
        | [] => none

/-- Let the source hear of the request on its way, unless the tail has stopped. -/
def contact (a : Actor) : Actor :=
  if a.isStopped then a else { a with session := a.session.contact }

/-- Do what is to be done at this moment, but no more than `fuel` things. -/
def settleDown : Nat → Actor → Actor
  | 0, a => a
  | fuel + 1, a =>
    match a.turn with
    | some a => settleDown fuel a
    | none => a.contact

/-- The most things that are done at one moment. -/
def busiest : Nat := 1000

/-- Do what is to be done at this moment. -/
def work (a : Actor) : Actor :=
  settleDown busiest a

/-- Send a command. Nobody reads it after the tail has stopped. -/
def send (a : Actor) (c : Command) : Actor :=
  if a.isStopped then a else { a with mailbox := a.mailbox ++ [c] }

def addHandle (a : Actor) : Actor :=
  { a with handles := a.handles + 1 }

def dropHandle (a : Actor) : Actor :=
  { a with handles := a.handles - 1 }

/-- The next moment at which something is to be done. -/
def nextDue (a : Actor) : Option Nat :=
  if a.isStopped then none else a.session.tail.nextDue

def setTime (a : Actor) (now : Nat) : Actor :=
  { a with session := { a.session with now } }

/-- Let time pass, and do at each moment what is to be done then. -/
def wait (a : Actor) (milliseconds : Nat) : Actor :=
  let now := a.session.now
  match a.nextDue with
  | some due =>
    if _h : now < due ∧ due ≤ now + milliseconds then
      (a.setTime due).work.wait (milliseconds - (due - now))
    else (a.setTime (now + milliseconds)).work
  | none => (a.setTime (now + milliseconds)).work
termination_by milliseconds
decreasing_by omega

end Actor
end RangeTail
