/-!
This module contains the channels on which a view tells of its scrolling.
-/

namespace RangeTail.Scroll

/-- A line from those who tell of scrolling to the one who waits for it. -/
structure Channel where
  /-- The events that have not been waited for. -/
  queued : Nat := 0
  /-- Those who can tell of scrolling. -/
  notifiers : Nat := 1
  /-- There is someone who waits. -/
  subscribed : Bool := true
  deriving DecidableEq, Repr, Inhabited

/-- What the one who waits for scrolling learns. -/
inductive News where
  /-- The view was scrolled, once or more. -/
  | scrolled
  /-- No scrolling will ever be told of any more. -/
  | closed
  deriving DecidableEq, Repr

namespace Channel

/-- Both ends are there. -/
def isLive (c : Channel) : Bool :=
  c.subscribed && 0 < c.notifiers

/-- Tell of scrolling; it is lost if nobody waits for it. -/
def notify (c : Channel) : Channel :=
  if c.isLive then { c with queued := c.queued + 1 } else c

def addNotifier (c : Channel) : Channel :=
  { c with notifiers := c.notifiers + 1 }

def dropNotifier (c : Channel) : Channel :=
  { c with notifiers := c.notifiers - 1 }

def unsubscribe (c : Channel) : Channel :=
  { c with subscribed := false }

/-- What there is to learn at this moment, if anything. The events that were queued count as one. -/
def news? (c : Channel) : Option News :=
  if 0 < c.queued then some .scrolled
  else if c.notifiers = 0 then some .closed
  else none

/-- All that was queued has been learnt. -/
def drain (c : Channel) : Channel :=
  { c with queued := 0 }

end Channel
end RangeTail.Scroll
