import RangeTail.CommandLine.Printing
import RangeTail.Proofs.Actor.Teardown
import RangeTail.Proofs.Output.Printing
import RangeTail.Proofs.Tail.Outcome

/-!
This module contains what becomes of a log that is not followed when its first request is answered: the
answer is taken in and what was learnt is printed, unless a part of the program breaks down at it.
That takes bytes that reach past the largest offset.
-/

namespace RangeTail

/-- The range that is read of a log that nothing is known of, at a position or at its end. -/
def firstRange (config : Config) (offset : Option Nat) : ByteRange :=
  match offset with
  | some first => .span first (addClamped first config.chunkSize)
  | none => .suffix config.chunkSize

namespace Outcome

/-- The snapshot after the first request, by what came of it. -/
def snapshot (o : Outcome) : Snapshot :=
  Snapshot.initial.answered o.request o.latency o.answer

theorem snapshot_failure (o : Outcome) : o.snapshot.failure = o.failure? :=
  Snapshot.answered_failure ..

/-- The tail breaks down at the answer to the first request. -/
def breaksTail (o : Outcome) : Bool :=
  match o.answer with
  | .ok chunk => (Snapshot.initial.merge? chunk).isNone
  | .error _ => false

/-- The printer breaks down at the snapshot after the first request. -/
def breaksPrinter (o : Outcome) : Bool :=
  (({} : Cursor).advance? o.snapshot).isNone

theorem breaksTail_iff {o : Outcome}
    : o.breaksTail = true ↔
        ∃ chunk, o.answer = .ok chunk ∧ Snapshot.initial.merge? chunk = none := by
  obtain ⟨request, latency, answer⟩ := o
  cases answer with
  | ok chunk => simp [breaksTail]
  | error fault => simp [breaksTail]

/-- A request that has not failed tells something of the file. -/
theorem snapshot_loading {o : Outcome} (h : o.failure? = none) : o.snapshot.loading = false := by
  obtain ⟨request, latency, answer⟩ := o
  cases answer with
  | ok chunk => rfl
  | error fault =>
    cases fault with
    | emptyFile total => rfl
    | _ => contradiction

/-- The file reaches no farther than 64 bits count, as far as the answer tells of it. -/
def Fits (o : Outcome) : Prop :=
  ∀ chunk, o.answer = .ok chunk → chunk.stop ≤ maxOffset

theorem Fits.breaksTail {o : Outcome} (h : o.Fits) : o.breaksTail = false := by
  rw [Bool.eq_false_iff]
  intro hbreaks
  obtain ⟨chunk, hanswer, hmerge⟩ := breaksTail_iff.mp hbreaks
  rw [Snapshot.Fits.merge? (Snapshot.fits_of_unloaded rfl) (h chunk hanswer)] at hmerge
  contradiction

theorem Fits.breaksPrinter {o : Outcome} (h : o.Fits) : o.breaksPrinter = false := by
  obtain ⟨request, latency, answer⟩ := o
  cases answer with
  | ok chunk =>
    have hfits : (Snapshot.initial.merge chunk).Fits :=
      .merge (Snapshot.fits_of_unloaded rfl) (h chunk rfl)
    have hadvance : ({} : Cursor).advance? (Snapshot.initial.merge chunk) = _ :=
      Cursor.advance?_of_merge hfits
    unfold Outcome.breaksPrinter snapshot Snapshot.answered
    rw [hadvance]
    rfl
  | error fault =>
    cases fault <;> rfl

theorem snapshot_textOffset {o : Outcome} (h : o.snapshot.text ≠ none)
    : o.snapshot.textOffset ≠ none := by
  obtain ⟨request, latency, answer⟩ := o
  cases answer with
  | ok chunk => nofun
  | error fault => cases fault <;> contradiction

end Outcome

namespace Tail

/-- A tail that waits for the answer to its first request, and is shown to nobody in a view. -/
def reading (config : Config) (url : String) (range : ByteRange) (started : Nat) : Tail :=
  { config, url, snapshot := .initial, inFlight := some { range, started } }

/-- A tail that something came of the first request of, and that waits for nothing. -/
def wasRead (config : Config) (url : String) (o : Outcome) : Tail :=
  { config, url, snapshot := o.snapshot, published := 1 }

variable {config : Config} {url : String} {range : ByteRange} {started now : Nat} {o : Outcome}

theorem wasRead_snapshot : (wasRead config url o).snapshot = o.snapshot := rfl

theorem isOver_wasRead : (wasRead config url o).IsOver where
  inFlight := rfl
  pending := rfl
  pollDue := rfl
  settleDue := rfl
  leavesView := nofun

theorem reading_after_fetched (answer : Except Fault Chunk)
    : (reading config url range started).after now (.event (.fetched answer))
        =
      wasRead config url ⟨range, now - started, answer⟩ := by
  cases answer with
  | ok chunk => rfl
  | error fault => cases fault <;> rfl

/-- The tail takes its first answer in, unless it breaks down at it. -/
theorem handle?_reading (answer : Except Fault Chunk)
    : let o : Outcome := ⟨range, now - started, answer⟩
      (reading config url range started).handle? now (.fetched answer)
        = if o.breaksTail then none else some (wasRead config url o) := by
  intro o
  have hiff : (reading config url range started).handle? now (.fetched answer) = none ↔ _ :=
    handle?_fetched_eq_none_iff rfl
  split
  . next h => exact hiff.mpr (Outcome.breaksTail_iff.mp h)
  . next h =>
    cases hhandle : (reading config url range started).handle? now (.fetched answer) with
    | none => exact absurd (Outcome.breaksTail_iff.mpr (hiff.mp hhandle)) h
    | some u =>
      rw [eq_handle_of_handle? hhandle]
      exact congrArg some (reading_after_fetched answer)

theorem eq_fetched_of_reading {e : Event}
    (h : (reading config url range started).CanHappen (.event e))
    : ∃ answer, e = .fetched answer := by
  cases e with
  | fetched answer => exact ⟨answer, rfl⟩
  | poll => contradiction
  | settle => contradiction
  | scrolled news => contradiction

theorem request?_reading (answer : Except Fault Chunk)
    : (reading config url range started).request? now (.event (.fetched answer)) = none := by
  apply request?_of_waiting
  rw [reading_after_fetched]
  nofun

end Tail

theorem Cursor.advance_fresh {s : Snapshot} (h : s.text ≠ none → s.textOffset ≠ none)
    : (({} : Cursor).advance s).1 = s.text.getD "" := by
  cases htext : s.text with
  | none =>
    unfold advance
    rw [htext]
    cases s.textOffset <;> rfl
  | some text =>
    obtain ⟨start, hstart⟩ := Option.ne_none_iff_exists'.mp (h (by simp [htext]))
    have hshows : s.Shows start text.toList := ⟨hstart, by rw [htext, String.ofList_toList]⟩
    rw [advance_first hshows, String.ofList_toList]
    rfl

namespace CommandLine

/-- The part that breaks down at what came of the first request, if one does. -/
def Part.ofOutcome? (o : RangeTail.Outcome) : Option Part :=
  if o.breaksTail then some .tail else if o.breaksPrinter then some .printer else none

theorem Part.ofOutcome?_of_fits {o : RangeTail.Outcome} (h : o.Fits) : ofOutcome? o = none := by
  unfold ofOutcome?
  rw [h.breaksTail, h.breaksPrinter]
  rfl

/-- How the printing of a log that is read once ends. -/
def Verdict.ofOutcome (o : RangeTail.Outcome) : Verdict :=
  match o.failure? with
  | some f => .failed f
  | none => .done

theorem Verdict.ofOutcome_eq_failed {o : RangeTail.Outcome} {f : Failure}
    : ofOutcome o = .failed f ↔ o.failure? = some f := by
  unfold ofOutcome
  cases o.failure? <;> simp

theorem Verdict.ofOutcome_ne_continues (o : RangeTail.Outcome) : ofOutcome o ≠ .continues := by
  unfold ofOutcome
  split <;> nofun

theorem Verdict.ofOutcome_ne_broken (o : RangeTail.Outcome) (part : Part)
    : ofOutcome o ≠ .broken part := by
  unfold ofOutcome
  split <;> nofun

/-- The log has been read by one request for a range, and all that was learnt has been printed. -/
structure Printed.IsReadOnce (p : Printed) (o : RangeTail.Outcome) : Prop where
  requests : p.requests = [o.request]
  output : p.output = o.snapshot.text.getD ""
  ends : p.verdict ≠ .continues ∧ ∀ part, p.verdict ≠ .broken part
  fails : ∀ f, p.verdict = .failed f ↔
    ∃ fault, o.answer = .error fault ∧ (∀ total, fault ≠ .emptyFile total)
      ∧ f = .ofFault fault o.request o.latency
  tail : ∃ t, p.tail = some t ∧ t.snapshot = o.snapshot ∧ t.IsOver

/-- The log has been asked for by one request for a range, at whose answer a part broke down before
anything was printed. -/
structure Printed.IsBrokenOff (p : Printed) (o : RangeTail.Outcome) (part : Part) : Prop where
  requests : p.requests = [o.request]
  output : p.output = ""
  verdict : p.verdict = .broken part

section

variable {config : Config} {url : Url} {offset : Option Nat} {started now : Nat}
variable {range : ByteRange} {o : RangeTail.Outcome} {part : Part}

/-- What is printed of a log that is read once, and what is left of its tail. -/
def Printed.once (config : Config) (url : Url) (o : RangeTail.Outcome) : Printed :=
  match Part.ofOutcome? o with
  | some part => Printing.brokenOff o.request "" part
  | none =>
    { output := o.snapshot.text.getD ""
      requests := [o.request]
      verdict := .ofOutcome o
      tail := some (.wasRead config url.text o) }

theorem Printed.once_of_broken (h : Part.ofOutcome? o = some part)
    : once config url o = Printing.brokenOff o.request "" part := by
  unfold once
  rw [h]

theorem Printed.once_of_whole (h : Part.ofOutcome? o = none)
    : once config url o
        =
      { output := o.snapshot.text.getD ""
        requests := [o.request]
        verdict := .ofOutcome o
        tail := some (.wasRead config url.text o) } := by
  unfold once
  rw [h]

theorem Printed.isBrokenOff_once (h : Part.ofOutcome? o = some part)
    : (once config url o).IsBrokenOff o part := by
  rw [once_of_broken h]
  exact ⟨rfl, rfl, rfl⟩

theorem Printed.isReadOnce_once (h : Part.ofOutcome? o = none)
    : (once config url o).IsReadOnce o := by
  rw [once_of_whole h]
  exact {
    requests := rfl
    output := rfl
    ends := ⟨Verdict.ofOutcome_ne_continues o, Verdict.ofOutcome_ne_broken o⟩
    fails _ := Verdict.ofOutcome_eq_failed.trans RangeTail.Outcome.failure?_eq_some_iff
    tail := ⟨_, rfl, rfl, Tail.isOver_wasRead⟩ }

namespace Printing

/-- The log has been asked for, and the tail has its answer. -/
def answered (config : Config) (url : Url) (o : RangeTail.Outcome) : Printing where
  tail := .wasRead config url.text o

/-- All that was learnt of the log has been printed. -/
def shown (config : Config) (url : Url) (o : RangeTail.Outcome) : Printing where
  tail := .wasRead config url.text o
  cursor := (({} : Cursor).advance o.snapshot).2

theorem launch_of_not_follow (hfollow : config.follow = false)
    : launch config url offset started
        =
      { tail := .reading config url.text (firstRange config offset) started } := by
  unfold launch Tail.ofConfig
  rw [hfollow]
  cases offset <;> rfl

theorem verdict_shown (hfollow : config.follow = false) (o : RangeTail.Outcome)
    : (shown config url o).verdict = .ofOutcome o := by
  have hnot : ¬ config.follow = true := by simp [hfollow]
  unfold shown verdict Verdict.ofOutcome
  refine (if_neg hnot).trans ?_
  rw [Tail.wasRead_snapshot, o.snapshot_failure]
  cases h : o.failure? with
  | some f => rfl
  | none =>
    have hloading : ¬ o.snapshot.loading = true := by
      simp [RangeTail.Outcome.snapshot_loading h]
    exact if_neg hloading

theorem handle?_reading (answer : Except Fault Chunk)
    : let o : RangeTail.Outcome := ⟨range, now - started, answer⟩
      handle? { tail := .reading config url.text range started } now (.fetched answer)
        = if o.breaksTail then none else some (answered config url o) := by
  intro o
  unfold handle?
  dsimp only
  rw [Tail.handle?_reading]
  split <;> rfl

theorem look?_answered (o : RangeTail.Outcome)
    : (answered config url o).look?
        =
      if o.breaksPrinter then none
      else some (o.snapshot.text.getD "", shown config url o) := by
  unfold look? answered RangeTail.Outcome.breaksPrinter
  rw [Tail.wasRead_snapshot]
  cases hadvance : ({} : Cursor).advance? o.snapshot with
  | none => rfl
  | some printed =>
    rw [Cursor.eq_advance_of_advance? hadvance,
      ← Cursor.advance_fresh RangeTail.Outcome.snapshot_textOffset]
    rfl

theorem run_launch (hfollow : config.follow = false) (serve : ByteRange → Except Fault Chunk)
    (rest : List (ByteRange → Except Fault Chunk))
    : let range := firstRange config offset
      (launch config url offset started).run now (serve :: rest)
        = .once config url ⟨range, now - started, serve range⟩ := by
  intro range
  rw [launch_of_not_follow hfollow]
  unfold run Printed.once Part.ofOutcome?
  have hrequest : request? { tail := .reading config url.text range started } = some range := rfl
  rw [hrequest]
  dsimp only
  rw [handle?_reading]
  cases htail : RangeTail.Outcome.breaksTail ⟨range, now - started, serve range⟩ with
  | true => rfl
  | false =>
    rw [if_neg nofun]
    dsimp only
    rw [look?_answered]
    cases RangeTail.Outcome.breaksPrinter ⟨range, now - started, serve range⟩ with
    | true => rfl
    | false =>
      rw [if_neg nofun]
      dsimp only
      rw [verdict_shown hfollow]
      have hends := Verdict.ofOutcome_ne_continues ⟨range, now - started, serve range⟩
      split
      . contradiction
      . rfl

end Printing

end

end CommandLine
end RangeTail
