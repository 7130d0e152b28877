import RangeTail.Scroll.Channel

/-!
This module contains the views in which a log is shown.
-/

namespace RangeTail.Scroll

/-- A view that can be scrolled, and those who listen for it. -/
structure View where
  position : Nat := 0
  /-- The position of the end of what is shown. -/
  bottom : Nat := 0
  /-- How often the view was sent to its bottom. -/
  bottomScrolls : Nat := 0
  /-- The channels to the listeners, by number. -/
  listeners : List (Nat × Channel) := []
  /-- The number of the next listener. -/
  nextListener : Nat := 0
  deriving DecidableEq, Repr, Inhabited

namespace View

def isAtBottom (v : View) : Bool :=
  v.bottom ≤ v.position

/-- Put every channel through a function. -/
def mapListeners (v : View) (f : Channel → Channel) : View :=
  { v with listeners := v.listeners.map fun (i, c) => (i, f c) }

def notify (v : View) : View :=
  v.mapListeners Channel.notify

/-- What is shown has now its end at `bottom`; the view stays where it is. -/
def grow (v : View) (bottom : Nat) : View :=
  { v with bottom := bottom }

/-- The user scrolls. -/
def scrollTo (v : View) (position : Nat) : View :=
  { v with position := min position v.bottom }.notify

def scrollToBottom (v : View) : View :=
  { v with position := v.bottom, bottomScrolls := v.bottomScrolls + 1 }.notify

/-- Register a listener. -/
def subscribe (v : View) : Nat × View :=
  (v.nextListener, { v with
    listeners := v.listeners ++ [(v.nextListener, {})]
    nextListener := v.nextListener + 1 })

def unsubscribe (v : View) (listener : Nat) : View :=
  { v with listeners := v.listeners.filter (·.1 ≠ listener) }

/-- The view is taken away: nobody will be told of scrolling any more. -/
def close (v : View) : View :=
  v.mapListeners fun c => { c with notifiers := 0 }

/-- The number of listeners that scrolling is told to. -/
def liveListeners (v : View) : Nat :=
  v.listeners.countP (·.2.isLive)

/-- What a listener can learn at this moment. -/
def news? (v : View) (listener : Nat) : Option News :=
  (v.listeners.lookup listener).bind Channel.news?

/-- A listener has learnt all that there was. -/
def drain (v : View) (listener : Nat) : View :=
  { v with listeners := v.listeners.map fun (i, c) => (i, if i = listener then c.drain else c) }

end View
end RangeTail.Scroll
