import RangeTail.Tail

/-!
This module contains all that can happen to the tail of a log: what its user tells it to do, and
what comes about by itself.
-/

namespace RangeTail

/-- What the user of a tail tells it to do. -/
inductive Command where
  | follow (enabled : Bool)
  | loadPrevious
  | skipToEnd
  | jumpTo (offset : Nat)
  | cancel
  deriving DecidableEq, Repr

/-- What comes about by itself. -/
inductive Event where
  /-- The request on its way has been answered. -/
  | fetched (answer : Except Fault Chunk)
  /-- It is time to ask for new data. -/
  | poll
  /-- It is time to move the view. -/
  | settle
  /-- There is news of the view. -/
  | scrolled (news : Scroll.News)

namespace Tail

/-- Do what a command says. -/
def apply (t : Tail) (now : Nat) : Command → Tail
  | .follow enabled => t.setFollow now enabled
  | .loadPrevious => t.loadPrevious now
  | .skipToEnd => t.skipToEnd now
  | .jumpTo offset => t.jumpTo now offset
  | .cancel => t.cancel

/-- Deal with an event. -/
def handle (t : Tail) (now : Nat) : Event → Tail
  | .fetched answer =>
    match t.inFlight with
    | some f => t.complete now f answer
    | none => t
  | .poll => t.start now
  | .settle => t.settle
  | .scrolled news => t.drain.noticeScroll news

/-- The same, if 64 bits hold the sums that it takes. The program breaks down where they do not. -/
def handle? (t : Tail) (now : Nat) : Event → Option Tail
  | .fetched answer =>
    match t.inFlight with
    | some f => t.complete? now f answer
    | none => some t
  | .poll => t.start? now
  | e => some (t.handle now e)

/-- The next moment at which something is to be done. -/
def nextDue (t : Tail) : Option Nat :=
  t.pollDue.merge min t.settleDue

/-- The news of the view that has not been learnt. -/
def scrollNews? (t : Tail) : Option Scroll.News :=
  t.pin.bind (·.news?)

end Tail
end RangeTail
