import RangeTail.CommandLine.Printing
import RangeTail.Proofs.Actor.Teardown
import RangeTail.Proofs.Tail.Account

/-!
This module contains the printing of a log whose tail works by itself meanwhile. The printer is
woken when a snapshot was published since its last look, and looks at the newest one only; how many
there were before is lost on it. As soon as it has seen enough it sends the tail the command to
cancel, and it is over when the tail has taken that. Of a tail that has broken down the printer learns
as soon as it has nothing more to look at, and a printer that breaks down takes the tail with it.
-/

namespace RangeTail

theorem Tail.IsOver.not_canHappen {t : Tail} (h : t.IsOver) (e : Event)
    : ¬ t.CanHappen (.event e) := by
  unfold CanHappen
  cases e with
  | fetched answer => simp [isFetching, h.inFlight]
  | poll => simp [isPolling, h.pollDue]
  | settle => simp [h.settleDue]
  | scrolled news =>
    cases hpin : t.pin with
    | none => simp
    | some pin => simp [(h.leavesView pin hpin).1]

namespace CommandLine

/-- What has become of a tail that works by itself. -/
inductive Progress where
  | works
  /-- It has taken the command to cancel. -/
  | stopped
  /-- It has broken down. -/
  | lost
  deriving DecidableEq, Repr

/-- A log that is printed while its tail works by itself. -/
structure Watch where
  printing : Printing
  /-- The ranges that were asked for, in order. -/
  requests : List ByteRange
  /-- The number of snapshots that had been published at the last look. -/
  seen : Nat
  /-- What was printed at each look. -/
  written : List String := []
  verdict : Verdict := .continues
  progress : Progress := .works

namespace Watch

/-- Let the tail of a log that is to be printed work by itself. -/
def ofPrinting (p : Printing) : Watch where
  printing := p
  requests := p.request?.toList
  seen := p.tail.published

/-- One thing that happens while a log is printed. -/
inductive Move where
  /-- Something comes about in the tail. -/
  | event (now : Nat) (e : Event)
  /-- The printer looks at the newest snapshot. -/
  | look
  /-- The printer learns that the tail has broken down. -/
  | notice
  /-- The tail takes the command to cancel. -/
  | stop
  /-- The user puts an end to it. -/
  | interrupt

/-- The printer looks when there is something to see, until it has seen enough. -/
def CanHappen (w : Watch) : Move → Prop
  | .event _ e =>
    w.progress = .works ∧ w.verdict ≠ .broken .printer ∧ w.printing.tail.CanHappen (.event e)
  | .look => w.verdict = .continues ∧ w.seen < w.printing.tail.published
  | .notice =>
    w.progress = .lost ∧ (∀ part, w.verdict ≠ .broken part)
      ∧ (w.verdict = .continues → w.printing.tail.published ≤ w.seen)
  | .stop => w.progress = .works ∧ w.verdict ≠ .broken .printer ∧ w.verdict ≠ .continues
  | .interrupt => w.verdict = .continues

def after (w : Watch) : Move → Watch
  | .event now e =>
    match w.printing.handle? now e with
    | none => { w with progress := .lost }
    | some printing =>
      { w with
        printing := printing
        requests := w.requests ++ (w.printing.tail.request? now (.event e)).toList }
  | .look =>
    match w.printing.look? with
    | none => { w with verdict := .broken .printer }
    | some (text, printing) =>
      { w with
        printing := printing
        seen := w.printing.tail.published
        written := w.written ++ [text]
        verdict := printing.verdict }
  | .notice => { w with verdict := .broken .tail }
  | .stop => { w with printing := w.printing.cancel, progress := .stopped }
  | .interrupt => { w with verdict := .done }

/-- What is made of a log that is printed by moves that are allowed, one after the other. -/
inductive Run (allowed : Move → Prop) (w : Watch) : List Move → Watch → Prop
  | refl : Run allowed w [] w
  | next {moves : List Move} {u : Watch} (m : Move) :
      Run allowed w moves u → allowed m → u.CanHappen m → Run allowed w (moves ++ [m]) (u.after m)

/-- None of the moves that are allowed can happen. -/
def IsStuck (allowed : Move → Prop) (w : Watch) : Prop :=
  ∀ m, allowed m → ¬ w.CanHappen m

/-- What has come of the printing. -/
def printed (w : Watch) : Printed where
  output := String.join w.written
  requests := w.requests
  verdict := w.verdict
  tail := match w.verdict with
    | .broken _ => none
    | _ => some w.printing.tail

end Watch
end CommandLine
end RangeTail
