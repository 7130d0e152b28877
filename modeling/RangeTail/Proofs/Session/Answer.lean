import RangeTail.Proofs.Session.Run
import RangeTail.Proofs.Snapshot.Stop
import RangeTail.Proofs.Tail.Snapshot

/-!
This module contains the answers that the requests of a session can get: the bytes that its log has of
the range, the news that it has none, or the fault that its source was made to give.
-/

namespace RangeTail

namespace MemoryLog

variable {log : MemoryLog} {r : ByteRange}

/-- What follows a window has bytes, since it is read from the last byte of the window on. -/
theorem exists_serve_growth (hsize : log.size ≤ maxOffset) {s : Snapshot} {stop : Nat}
    (hs : s.stop = some stop) (hpos : 0 < stop) (hstop : stop ≤ log.size) (chunkSize : Nat)
    : ∃ c, log.serve (nextRange s none chunkSize) = .ok c := by
  have hbounds : (bounds log.size (nextRange s none chunkSize)).1
      < (bounds log.size (nextRange s none chunkSize)).2 := by
    rw [bounds_growth hsize hs]
    dsimp only
    omega
  obtain ⟨c, hc, _⟩ := exists_serve hbounds
  exact ⟨c, hc⟩

/-- The range that an instruction leads to has bytes as long as it begins before the end of the
log. -/
theorem exists_serve_directed (hsize : log.size ≤ maxOffset) (s : Snapshot) {d : Directive}
    (chunkSize : Nat) (h : d.offset < log.size)
    : ∃ c, log.serve (nextRange s (some d) chunkSize) = .ok c := by
  have hbounds : (bounds log.size (nextRange s (some d) chunkSize)).1
      < (bounds log.size (nextRange s (some d) chunkSize)).2 := by
    cases d with
    | skipToEnd offset =>
      simp only [nextRange, bounds, addClamped, Directive.offset] at *
      omega
    | jump offset =>
      cases hs : s.offset with
      | none =>
        simp only [nextRange, hs, bounds, addClamped, Directive.offset] at *
        omega
      | some start =>
        simp only [nextRange, hs, bounds, addClamped, Directive.offset] at *
        split <;> omega
  obtain ⟨c, hc, _⟩ := exists_serve hbounds
  exact ⟨c, hc⟩

theorem serve_directed_eq_error {s : Snapshot} {d : Directive} {chunkSize : Nat}
    (h : log.size ≤ d.offset)
    : log.serve (nextRange s (some d) chunkSize) = .error (.emptyFile log.size) := by
  apply serve_eq_error
  have hfirst : (bounds log.size (nextRange s (some d) chunkSize)).1 = d.offset := by
    cases d with
    | skipToEnd offset => rfl
    | jump offset => cases hs : s.offset <;> simp [nextRange, hs, bounds, Directive.offset]
  have := bounds_snd_le log.size (nextRange s (some d) chunkSize)
  omega

end MemoryLog

/-- No fault that the source was made to give says that the file is empty. -/
def MemorySource.IsHonest (source : MemorySource) : Prop :=
  ∀ fault ∈ source.failures, ∀ total, fault ≠ .emptyFile total

namespace Session

/-- The log is only appended to, and no fault is made up that says that it is empty. -/
def Move.isHonest : Move → Bool
  | .truncate _ => false
  | .fail (.emptyFile _) => false
  | _ => true

theorem Move.ne_truncate {m : Move} (h : m.isHonest) (n : Nat) : m ≠ .truncate n := by
  rintro rfl
  contradiction

/-- The bytes that have come for the request on its way. -/
def arrived? (s : Session) : Option Chunk :=
  s.tail.inFlight.bind fun f =>
    if f.isUnderWay then (s.source.answer? f.range).bind Except.toOption else none

variable {s : Session} {m : Move}

theorem chunk_mem_ready {c : Chunk} (h : s.arrived? = some c) : .fetched (.ok c) ∈ s.ready := by
  obtain ⟨f, hf, hanswer⟩ := Option.bind_eq_some_iff.mp h
  split at hanswer
  . next hunderWay =>
    obtain ⟨answer, heq, hc⟩ := Option.bind_eq_some_iff.mp hanswer
    cases answer with
    | error fault => contradiction
    | ok d =>
      obtain rfl := Option.some.inj hc
      exact fetched_mem_ready.mpr ⟨f, hf, hunderWay, heq⟩
  . contradiction

/-- What the log serves has come, unless the source holds it back or is made to fail. -/
theorem serve_mem_ready {f : InFlight} (hf : s.tail.inFlight = some f)
    (hunderWay : f.isUnderWay = true) (hheld : s.source.held = false)
    (hfailures : s.source.failures = [])
    : .fetched (s.source.log.serve f.range) ∈ s.ready := by
  apply fetched_mem_ready.mpr
  refine ⟨f, hf, hunderWay, ?_⟩
  simp [MemorySource.answer?, hheld, hfailures]

theorem fire_fetched {f : InFlight} (hf : s.tail.inFlight = some f) (answer : Except Fault Chunk)
    : (s.fire (.fetched answer)).tail = s.tail.complete s.now f answer :=
  s.tail.after_fetched s.now hf answer

/-- All that can become of the snapshot of a session. -/
theorem after_snapshot {m : Tail.Move} (hcan : s.CanHappen (.tail m))
    : (∃ follow, (s.after (.tail m)).tail.snapshot = s.tail.snapshot.withFollow follow)
        ∨
      ∃ f answer latency, m = .event (.fetched answer) ∧ s.tail.inFlight = some f
        ∧ (s.after (.tail m)).tail.snapshot = s.tail.snapshot.answered f.range latency answer
        ∧ ((∃ fault ∈ s.source.failures, answer = .error fault)
            ∨ (s.source.failures = [] ∧ answer = s.source.log.serve f.range)) := by
  rw [after_tail]
  rcases s.tail.after_snapshot s.now m with hfollow | ⟨f, answer, rfl, hf, heq⟩
  . exact .inl hfollow
  . right
    obtain ⟨g, hg, _, hanswer⟩ := fetched_mem_ready.mp hcan
    obtain rfl : f = g := Option.some.inj (hf.symm.trans hg)
    exact ⟨f, answer, _, rfl, hf, heq, answer_eq hanswer⟩

theorem after_log (hm : ∀ n, m ≠ .truncate n)
    : s.source.log.bytes <+: (s.after m).source.log.bytes := by
  cases m with
  | append more => apply List.prefix_append
  | truncate n => exact absurd rfl (hm n)
  | tail m => simp only [after_tail_log, List.prefix_rfl]
  | _ => exact List.prefix_rfl

theorem after_tail_failures (s : Session) (m : Tail.Move)
    : (s.after (.tail m)).source.failures ⊆ s.source.failures := by
  cases m with
  | command c =>
    dsimp only [after, apply]
    split
    . unfold Fetch.drop
      split <;> exact List.Subset.refl _
    . exact List.Subset.refl _
  | event e =>
    cases e with
    | fetched => exact List.Sublist.subset (List.tail_sublist _)
    | _ => exact List.Subset.refl _
  | contact =>
    dsimp only [after]
    unfold contact
    split
    . split <;> exact List.Subset.refl _
    . exact List.Subset.refl _
  | _ => exact List.Subset.refl _

theorem isHonest_after (h : s.source.IsHonest) (hm : m.isHonest) : (s.after m).source.IsHonest := by
  cases m with
  | fail fault =>
    intro g hg total
    rcases List.mem_append.mp hg with hold | hnew
    . exact h g hold total
    . rintro rfl
      obtain rfl := List.mem_singleton.mp hnew
      simp [Move.isHonest] at hm
  | tail m =>
    intro g hg
    exact h g (s.after_tail_failures m hg)
  | _ => exact h

end Session
end RangeTail
