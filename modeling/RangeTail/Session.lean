import RangeTail.MemorySource
import RangeTail.Tail.Event

/-!
This module contains the tail of a log together with the source that answers its requests, and the
passing of time.
-/

namespace RangeTail

/-- A tail at work. -/
structure Session where
  tail : Tail
  source : MemorySource
  /-- The moment it is. -/
  now : Nat := 0
  deriving DecidableEq, Repr

namespace Session

/-- Let the source hear of the request on its way. -/
def contact (s : Session) : Session :=
  match s.tail.inFlight with
  | some f =>
    if f.isUnderWay then s
    else { s with
      tail := { s.tail with inFlight := some { f with isUnderWay := true } }
      source := s.source.startFetch f.range }
  | none => s

/-- The events that have come about at this moment, in the order in which they are dealt with. -/
def ready (s : Session) : List Event :=
  let fetched := match s.tail.inFlight with
    | some f => if f.isUnderWay then (s.source.answer? f.range).map Event.fetched else none
    | none => none
  fetched.toList
    ++ (if s.tail.pollDue.any (· ≤ s.now) then [.poll] else [])
    ++ (if s.tail.settleDue.any (· ≤ s.now) then [.settle] else [])
    ++ (s.tail.scrollNews?.map Event.scrolled).toList

/-- Deal with an event. -/
def fire (s : Session) (e : Event) : Session :=
  { s with
    tail := s.tail.handle s.now e
    source := match e with
      | .fetched _ => s.source.finishFetch
      | _ => s.source }

/-- Do what a command says. A request that is given up is no longer answered. -/
def apply (s : Session) (c : Command) : Session :=
  { s with
    tail := s.tail.apply s.now c
    source := match c, s.tail.inFlight with
      | .cancel, some f => f.toFetch.drop s.source
      | _, _ => s.source }

/-- What came of waiting for an event. -/
inductive Progress where
  /-- An event was dealt with. -/
  | done
  /-- There is nothing to wait for. -/
  | idle
  /-- No event came about. -/
  | pending
  deriving DecidableEq, Repr

/-- Deal with one event that has come about. -/
def poll (s : Session) : Progress × Session :=
  if s.tail.isIdle then (.idle, s)
  else match s.contact.ready with
    | e :: _ => (.done, s.contact.fire e)
    | [] => (.pending, s.contact)

/-- Wait for one event and deal with it, but let no more than `limit` milliseconds pass. -/
def step (limit : Nat) (s : Session) : Progress × Session :=
  match s.poll with
  | (.pending, s) =>
    match s.tail.nextDue with
    | some due =>
      if due ≤ s.now + limit then { s with now := due }.poll
      else (.pending, { s with now := s.now + limit })
    | none => (.pending, { s with now := s.now + limit })
  | r => r

/-- Let time pass. -/
def advance (s : Session) (milliseconds : Nat) : Session :=
  { s with now := s.now + milliseconds }

/-- Change the view that the log is shown in. -/
def mapView (s : Session) (f : Scroll.View → Scroll.View) : Session :=
  { s with tail := { s.tail with pin := s.tail.pin.map fun p => { p with view := f p.view } } }

end Session
end RangeTail
