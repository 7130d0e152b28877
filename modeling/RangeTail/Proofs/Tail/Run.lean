import RangeTail.Tail.Event

/-!
This module contains the runs of a tail: all that can happen to it, in any order and at any moments.
-/

namespace RangeTail.Tail

/-- Whatever can be made of a tail before it begins to work. -/
inductive Prepared : Tail → Prop
  | ofConfig (config : Config) (url : String) : Prepared (ofConfig config url)
  | withView {t : Tail} (view : Scroll.View) : Prepared t → Prepared (t.withView view)
  | withStore {t : Tail} (store : QueryStore) : Prepared t → Prepared (t.withStore store)
  | withOffset {t : Tail} (offset : Nat) : Prepared t → Prepared (t.withOffset offset)

/-- The source has heard of the request on its way. -/
def contact (t : Tail) : Tail :=
  { t with inFlight := t.inFlight.map fun f => { f with isUnderWay := true } }

/-- Somebody else changes the view. -/
def mapView (t : Tail) (change : Scroll.View → Scroll.View) : Tail :=
  { t with pin := t.pin.map fun p => { p with view := change p.view } }

/-- Somebody else writes to the store. -/
def mapStore (t : Tail) (change : QueryStore → QueryStore) : Tail :=
  { t with offsetParam := t.offsetParam.map fun p => { p with store := change p.store } }

/-- One thing that happens to a tail. -/
inductive Move where
  | launch
  | start
  | command (c : Command)
  | event (e : Event)
  | contact
  | view (change : Scroll.View → Scroll.View)
  | store (change : QueryStore → QueryStore)

/-- Answers come to requests, clocks run out that were started, and only who listens has news. -/
def CanHappen (t : Tail) : Move → Prop
  | .event (.fetched _) => t.isFetching
  | .event .poll => t.isPolling
  | .event .settle => t.settleDue.isSome
  | .event (.scrolled _) => t.pin.any (·.isArmed)
  | _ => True

def after (t : Tail) (now : Nat) : Move → Tail
  | .launch => t.launch now
  | .start => t.start now
  | .command c => t.apply now c
  | .event e => t.handle now e
  | .contact => t.contact
  | .view change => t.mapView change
  | .store change => t.mapStore change

/-- What a tail becomes by things that are allowed to happen. -/
inductive Run (allowed : Move → Prop) (t : Tail) : Tail → Prop
  | refl : Run allowed t t
  | next {u : Tail} (now : Nat) (m : Move) :
      Run allowed t u → allowed m → u.CanHappen m → Run allowed t (u.after now m)

theorem Run.trans {allowed : Move → Prop} {t u v : Tail} (h₁ : Run allowed t u)
    (h₂ : Run allowed u v)
    : Run allowed t v := by
  induction h₂ with
  | refl => exact h₁
  | next now m _ hallowed hcan ih => exact ih.next now m hallowed hcan

end RangeTail.Tail
