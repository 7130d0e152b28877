import RangeTail.Config
import RangeTail.Directive
import RangeTail.Fetch
import RangeTail.QueryStore
import RangeTail.Scroll.Pin
import RangeTail.Snapshot.Merge

/-!
This module contains the tail of a log: what is known of it, the one request that is on its way,
the instruction for the one after it, and the times at which something is to be done. Moments are
in milliseconds, and whatever happens is told the moment at which it does.

There is at most one request on its way; an instruction given meanwhile waits for its end, and takes
the place of one that waits already. A request that ends while the log is followed is followed by
another one after the poll interval.
-/

namespace RangeTail

/-- A request on its way, and the moment at which it was made. -/
structure InFlight extends Fetch where
  started : Nat
  deriving DecidableEq, Repr

/-- The tail of a log. -/
structure Tail where
  config : Config
  url : String
  snapshot : Snapshot
  /-- The number of snapshots that the observers have been shown. -/
  published : Nat := 0
  /-- The instruction for the next request. -/
  pending : Option Directive := none
  inFlight : Option InFlight := none
  /-- When to ask for new data. -/
  pollDue : Option Nat := none
  /-- When to move the view after new data. -/
  settleDue : Option Nat := none
  /-- The view, if the log is shown in one. -/
  pin : Option Scroll.Pin := none
  /-- Where the position of the window is kept, if it is. -/
  offsetParam : Option OffsetParam := none
  deriving DecidableEq, Repr

namespace Tail

/-- The tail of a log before anything was asked for. -/
def ofConfig (config : Config) (url : String) : Tail where
  config := config
  url := url
  snapshot := Snapshot.initial.withFollow config.follow

/-- Show the log in a view. -/
def withView (t : Tail) (view : Scroll.View) : Tail :=
  { t with pin := some { view } }

/-- Keep the position of the window in a store, and begin at the one that it holds. -/
def withStore (t : Tail) (store : QueryStore) : Tail :=
  let param : OffsetParam := { store, name := t.config.offsetParam }
  { t with
    offsetParam := some param
    pending := (param.offset?.map Directive.jump).or t.pending }

/-- Begin at a position. -/
def withOffset (t : Tail) (offset : Nat) : Tail :=
  { t with pending := some (.jump offset) }

def isFetching (t : Tail) : Bool :=
  t.inFlight.isSome

def isPolling (t : Tail) : Bool :=
  t.pollDue.isSome

def hasTimers (t : Tail) : Bool :=
  t.pollDue.isSome || t.settleDue.isSome

/-- The view is kept at its bottom. -/
def isPinned (t : Tail) : Bool :=
  t.pin.any (·.isStuck)

/-- Nothing can happen unless it is told to. -/
def isIdle (t : Tail) : Bool :=
  !t.isFetching && !t.hasTimers && !t.pin.any (·.isArmed)

/-- Show a snapshot to the observers. -/
def publish (t : Tail) (s : Snapshot) : Tail :=
  { t with snapshot := s, published := t.published + 1 }

/-- Make the next request, unless one is on its way. -/
def start (t : Tail) (now : Nat) : Tail :=
  match t.inFlight with
  | some _ => { t with pollDue := none }
  | none =>
    { t with
      pollDue := none
      pending := none
      inFlight := some
        { range := nextRange t.snapshot t.pending t.config.chunkSize, started := now } }

/-- The same, if 64 bits hold the sums that it takes. -/
def start? (t : Tail) (now : Nat) : Option Tail :=
  match t.inFlight with
  | some _ => some (t.start now)
  | none =>
    (nextRange? t.snapshot t.pending t.config.chunkSize).map fun range =>
      { t with pollDue := none, pending := none, inFlight := some { range, started := now } }

def arm (t : Tail) : Tail :=
  { t with pin := t.pin.map (·.arm) }

/-- Stop the clocks and leave the view alone. -/
def disengage (t : Tail) : Tail :=
  { t with pollDue := none, settleDue := none, pin := t.pin.map (·.disarm) }

/-- Begin to work. -/
def launch (t : Tail) (now : Nat) : Tail :=
  (if t.snapshot.follow then t.arm else t).start now

/-! Answers -/

/-- Note where the window begins. -/
def recordOffset (t : Tail) : Tail :=
  { t with offsetParam := t.offsetParam.map (·.record t.snapshot) }

/-- No clock runs for more than thirty years of 365 days. -/
def longestWait : Nat := 30 * 365 * 86400000

/-- The moment at which a clock runs out that is started now. -/
def dueAfter (now wait : Nat) : Nat :=
  now + min wait longestWait

/-- Move the view in a while, if it is kept at its bottom. -/
def settleSoon (t : Tail) (now : Nat) : Tail :=
  if t.isPinned ∧ t.settleDue = none then
    { t with settleDue := some (dueAfter now t.config.scrollSettle) }
  else t

/-- Ask for new data in a while, if the log is followed. -/
def pollSoon (t : Tail) (now : Nat) : Tail :=
  if t.snapshot.follow then { t with pollDue := some (dueAfter now t.config.pollInterval) } else t

/-- Take in the answer to a request that took `latency` milliseconds. -/
def takeIn (t : Tail) (now : Nat) (request : ByteRange) (latency : Nat) :
    Except Fault Chunk → Tail
  | .ok chunk => ((t.publish (t.snapshot.merge chunk)).recordOffset).settleSoon now
  | .error (.emptyFile total) => t.publish (t.snapshot.emptied total)
  | .error fault => t.publish (t.snapshot.withFailure (.ofFault fault request latency))

/-- Make the request that is waited for. -/
def startPending (t : Tail) (now : Nat) : Tail :=
  if t.pending.isSome then t.start now else t

/-- The request `f` has been answered. -/
def complete (t : Tail) (now : Nat) (f : InFlight) (answer : Except Fault Chunk) : Tail :=
  ((({ t with inFlight := none }.pollSoon now).takeIn now f.range (now - f.started)
    answer).startPending now)

/-- Take in an answer, if 64 bits hold the sums that it takes. -/
def takeIn? (t : Tail) (now : Nat) (request : ByteRange) (latency : Nat) :
    Except Fault Chunk → Option Tail
  | .ok chunk =>
    (t.snapshot.merge? chunk).map fun s => ((t.publish s).recordOffset).settleSoon now
  | .error fault => some (t.takeIn now request latency (.error fault))

/-- Make the request that is waited for, if 64 bits hold the sums that it takes. -/
def startPending? (t : Tail) (now : Nat) : Option Tail :=
  if t.pending.isSome then t.start? now else some t

/-- Go on after an answer, if 64 bits hold the sums that it takes. -/
def complete? (t : Tail) (now : Nat) (f : InFlight) (answer : Except Fault Chunk) : Option Tail :=
  (({ t with inFlight := none }.pollSoon now).takeIn? now f.range (now - f.started) answer).bind
    (·.startPending? now)

/-! Instructions -/

/-- Make the next request by an instruction. -/
def direct (t : Tail) (now : Nat) (directive : Option Directive) : Tail :=
  { t with pending := directive }.start now

/-- The instruction to read the end of the file, if it is known where that is. -/
def toEnd? (t : Tail) : Option Directive :=
  if t.snapshot.isLoaded then some (.toEnd t.snapshot.total t.config.chunkSize) else none

/-- Follow the log or no longer do. What is followed anew is read at its end. -/
def setFollow (t : Tail) (now : Nat) (follow : Bool) : Tail :=
  if follow = t.snapshot.follow then t
  else
    let t := t.publish (t.snapshot.withFollow follow)
    if follow then (t.arm).direct now (t.toEnd?.or t.pending) else t.disengage

/-- Read the bytes before the window, if there are any. -/
def loadPrevious (t : Tail) (now : Nat) : Tail :=
  match Directive.loadPrevious t.snapshot t.config.chunkSize with
  | some directive => t.direct now (some directive)
  | none => t

/-- Read the end of the file and follow it. -/
def skipToEnd (t : Tail) (now : Nat) : Tail :=
  let directive := t.toEnd?
  let t := if t.snapshot.follow then t else t.publish (t.snapshot.withFollow true)
  t.arm.direct now directive

/-- Read from a position. -/
def jumpTo (t : Tail) (now : Nat) (offset : Nat) : Tail :=
  t.direct now (some (.jump offset))

/-- Stop all work, and take the position of the window out of where it was kept. -/
def cancel (t : Tail) : Tail :=
  { t.disengage with
    inFlight := none
    pending := none
    offsetParam := t.offsetParam.map (·.clear) }

/-! Scrolling -/

/-- The news of the view has been learnt. -/
def drain (t : Tail) : Tail :=
  { t with pin := t.pin.map (·.drain) }

/-- There was news of the view. A user who leaves the bottom does not want to follow. -/
def noticeScroll (t : Tail) (news : Scroll.News) : Tail :=
  match t.pin with
  | none => t
  | some pin =>
    match news with
    | .closed => { t with pin := some pin.disarm }
    | .scrolled =>
      let t := { t with pin := some pin.onScroll }
      if !pin.onScroll.isStuck && t.snapshot.follow then
        (t.publish (t.snapshot.withFollow false)).disengage
      else t

/-- Move the view to its new bottom. -/
def settle (t : Tail) : Tail :=
  { t with settleDue := none, pin := t.pin.map (·.settle) }

end Tail
end RangeTail
