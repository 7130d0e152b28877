import RangeTail.Scroll.View

/-!
This module contains the pinning of a view to its bottom, which lasts until the user scrolls away.
-/

namespace RangeTail.Scroll

/-- A view that can be kept at its bottom. -/
structure Pin where
  view : View
  /-- The view is kept at its bottom. -/
  isStuck : Bool := false
  /-- The listener that tells when the user scrolls. -/
  listener : Option Nat := none
  deriving DecidableEq, Repr, Inhabited

namespace Pin

def isArmed (p : Pin) : Bool :=
  p.listener.isSome

/-- Go to the bottom, stay there, and listen for the user. -/
def arm (p : Pin) : Pin :=
  let view := p.view.scrollToBottom
  match p.listener with
  | some _ => { p with view, isStuck := true }
  | none =>
    let (listener, view) := view.subscribe
    { view, isStuck := true, listener := some listener }

/-- Leave the view alone. -/
def disarm (p : Pin) : Pin where
  view := p.listener.elim p.view p.view.unsubscribe
  isStuck := false
  listener := none

/-- The view was scrolled: stay at the bottom if it is there still, else leave it alone. -/
def onScroll (p : Pin) : Pin :=
  if p.view.isAtBottom then { p with isStuck := true } else p.disarm

/-- Follow the bottom after new text was shown. -/
def settle (p : Pin) : Pin :=
  if p.isStuck then { p with view := p.view.scrollToBottom } else p

/-- What there is to learn of scrolling at this moment. -/
def news? (p : Pin) : Option News :=
  p.listener.bind p.view.news?

/-- The news has been learnt. -/
def drain (p : Pin) : Pin :=
  { p with view := p.listener.elim p.view p.view.drain }

def description (p : Pin) : String :=
  s!"FollowScrollBinder \x7b stick: {p.isStuck}, armed: {p.isArmed}, .. \x7d"

end Pin
end RangeTail.Scroll
