import RangeTail.Proofs.Log.Window
import RangeTail.Proofs.Output.Printing
import RangeTail.Proofs.Tail.Text
import RangeTail.Proofs.Text.View

/-!
This module contains the runs of a log together with the snapshots that are made of it, and what the
snapshots of such a run show of a UTF-8 log.
-/

namespace RangeTail

open Text.Utf8 (encode fitting size)

/-- A log, and the snapshot that was last made of it. -/
structure Sight where
  log : MemoryLog
  snapshot : Snapshot
  deriving DecidableEq, Repr

/-- The snapshots that follow on the first one, one for every step that is made. -/
inductive Sight.Run (next : Sight → Sight → Prop) : Sight → List Snapshot → Sight → Prop
  | refl (v : Sight) : Run next v [] v
  | step {v w u : Sight} {shown : List Snapshot} :
      next v w → Run next w shown u → Run next v (w.snapshot :: shown) u

theorem Sight.Run.grows {next : Sight → Sight → Prop}
    (hnext : ∀ {v w : Sight}, next v w → v.log.bytes <+: w.log.bytes) {v u : Sight}
    {shown : List Snapshot} (h : Run next v shown u)
    : v.log.bytes <+: u.log.bytes := by
  induction h with
  | refl => exact List.prefix_rfl
  | step h _ ih => exact (hnext h).trans ih

namespace Snapshot

/-- The snapshot holds a window of the log, and shows the text of it. -/
structure Reads (s : Snapshot) (log : MemoryLog) (start stop : Nat) : Prop where
  holds : s.Holds log start stop
  decoded : s.IsDecoded

namespace Reads

variable {s : Snapshot} {log : MemoryLog} {start stop : Nat} {file : List Char}

theorem eq {start' stop' : Nat} (h : s.Reads log start stop) (h' : s.Reads log start' stop')
    : start = start' ∧ stop = stop' := by
  have hstart := h'.holds.offset
  have hstop := h'.holds.stop_eq
  rw [h.holds.offset, Option.some.injEq] at hstart
  rw [h.holds.stop_eq, Option.some.injEq] at hstop
  exact ⟨hstart, hstop⟩

theorem later {log' : MemoryLog} (h : s.Reads log start stop)
    (hlog : log.bytes <+: log'.bytes)
    : s.Reads log' start stop :=
  ⟨h.holds.later hlog, h.decoded⟩

theorem shows_of_view {first : Nat} {text : List Char} (h : s.Reads log start stop)
    (hview : TextView.ofWindow start (log.window start stop) = ⟨first, some (String.ofList text)⟩)
    : s.Shows first text := by
  obtain ⟨hoffset, htext⟩ := h.decoded start h.holds.offset
  rw [h.holds.bytes, hview] at hoffset htext
  exact ⟨hoffset, htext⟩

theorem textOffset (h : s.Reads log start stop)
    : s.textOffset = some (TextView.ofWindow start (log.window start stop)).offset := by
  rw [← h.holds.bytes]
  exact (h.decoded start h.holds.offset).1

theorem shows (h : s.Reads log start stop) (hfile : log.bytes <+: encode file)
    : ∃ text, s.Shows (TextView.ofWindow start (log.window start stop)).offset text
        ∧ (TextView.ofWindow start (log.window start stop)).offset + size text ≤ stop
        ∧ encode text = log.window (TextView.ofWindow start (log.window start stop)).offset
            ((TextView.ofWindow start (log.window start stop)).offset + size text) := by
  obtain ⟨first, text, hview, hle, hwindow⟩ :=
    TextView.exists_text hfile h.holds.start_le h.holds.stop_le
  rw [hview]
  exact ⟨text, h.shows_of_view hview, hle, hwindow.symm⟩

theorem shows_of_line (h : s.Reads log start stop) (hfile : log.bytes <+: encode file)
    (hline : start = 0 ∨ 0x0A ∈ log.window start stop)
    : ∃ before text, s.Shows (size before) text
        ∧ before ++ text = fitting stop file
        ∧ (TextView.ofWindow start (log.window start stop)).offset = size before := by
  have hboundary := TextView.isBoundary_of_line hfile hline
  obtain ⟨before, text, hview, happend⟩ :=
    TextView.text_of_isBoundary hfile h.holds.start_le h.holds.stop_le hboundary
  refine ⟨before, text, h.shows_of_view hview, happend, ?_⟩
  rw [hview]

end Reads
end Snapshot
end RangeTail
