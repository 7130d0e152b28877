import RangeTail.Proofs.Log.Window
import RangeTail.Proofs.Session.Run
import RangeTail.Proofs.Tail.Snapshot

/-!
This module contains the proof that what a session holds of its log is a part of the log, as long as
the log is only appended to. The window may be older than the log, but never wrong.
-/

namespace RangeTail

namespace Snapshot

/-- The window, if there is one, holds bytes of the log, and no more of it than it was heard of. -/
def IsFaithful (s : Snapshot) (log : MemoryLog) : Prop :=
  ∀ start, s.offset = some start →
    ∃ stop, s.Holds log start stop ∧ start < stop ∧ stop ≤ s.total ∧ s.total ≤ log.size

variable {s : Snapshot} {log : MemoryLog}

theorem isFaithful_of_unloaded (h : s.offset = none) : s.IsFaithful log := by
  intro start hstart
  rw [h] at hstart
  contradiction

namespace IsFaithful

theorem append (h : s.IsFaithful log) (more : List UInt8) : s.IsFaithful (log.append more) := by
  intro start hstart
  obtain ⟨stop, hholds, hlt, hle, htotal⟩ := h start hstart
  exists stop
  refine ⟨hholds.append more, hlt, hle, ?_⟩
  rw [MemoryLog.size_append]
  omega

theorem withFollow (h : s.IsFaithful log) (follow : Bool)
    : (s.withFollow follow).IsFaithful log := by
  intro start hstart
  obtain ⟨stop, hholds, hrest⟩ := h start hstart
  exact ⟨stop, hholds.withFollow follow, hrest⟩

theorem withFailure (h : s.IsFaithful log) (failure : Failure)
    : (s.withFailure failure).IsFaithful log := by
  intro start hstart
  obtain ⟨stop, hholds, hrest⟩ := h start hstart
  exact ⟨stop, hholds.withFailure failure, hrest⟩

theorem merge (h : s.IsFaithful log) {c : Chunk} (hc : c.IsOf log) (hne : c.offset < c.stop)
    : (s.merge c).IsFaithful log := by
  have hsome : ∃ start stop, (s.merge c).Holds log start stop ∧ start < stop := by
    cases hs : s.offset with
    | none => exact ⟨_, _, holds_merge_of_unloaded hs hc, hne⟩
    | some start =>
      obtain ⟨stop, hholds, hlt, _⟩ := h start hs
      by_cases htouches : start ≤ c.stop ∧ c.offset ≤ stop
      . exact ⟨_, _, hholds.merge_of_touches hc htouches.1 htouches.2, by omega⟩
      . exact ⟨_, _, hholds.merge_of_apart hc htouches, hne⟩
  obtain ⟨first, stop, hholds, hlt⟩ := hsome
  have htotal : (s.merge c).total = log.size := hc.total
  intro start hstart
  obtain rfl : first = start := by
    rw [hholds.offset] at hstart
    exact Option.some.inj hstart
  refine ⟨stop, hholds, hlt, ?_, Nat.le_of_eq htotal⟩
  rw [htotal]
  exact hholds.stop_le

theorem answered (h : s.IsFaithful log) {request : ByteRange} {answer : Except Fault Chunk}
    (hanswer : (∃ fault, answer = .error fault) ∨ answer = log.serve request) (latency : Nat)
    : (s.answered request latency answer).IsFaithful log := by
  cases answer with
  | ok c =>
    have hserve : log.serve request = .ok c := by
      rcases hanswer with ⟨_, hfault⟩ | hserve
      . contradiction
      . exact hserve.symm
    have hc := MemoryLog.isOf_of_serve hserve
    exact h.merge hc.1 hc.2
  | error fault =>
    cases fault with
    | emptyFile total => exact isFaithful_of_unloaded rfl
    | _ => exact h.withFailure _

end IsFaithful
end Snapshot

namespace Session

theorem isFaithful_after {s : Session} (h : s.tail.snapshot.IsFaithful s.source.log) {m : Move}
    (hm : ∀ n, m ≠ .truncate n) (hcan : s.CanHappen m)
    : (s.after m).tail.snapshot.IsFaithful (s.after m).source.log := by
  cases m with
  | append more => exact h.append more
  | truncate n => exact absurd rfl (hm n)
  | tail m =>
    rw [after_tail_log, after_tail]
    rcases s.tail.after_snapshot s.now m with ⟨follow, heq⟩ | ⟨f, answer, rfl, hf, heq⟩
    . rw [heq]
      exact h.withFollow follow
    . -- the log is asked when the answer comes, so no byte of it can have changed meanwhile
      rw [heq]
      obtain ⟨g, hg, _, hanswer⟩ := fetched_mem_ready.mp hcan
      obtain rfl : f = g := by
        rw [hf] at hg
        exact Option.some.inj hg
      exact h.answered (answer_cases hanswer) _
  | _ => exact h

theorem isFaithful_of_run {s u : Session} (h : s.tail.snapshot.IsFaithful s.source.log)
    (hrun : Run (fun m => ∀ n, m ≠ .truncate n) s u)
    : u.tail.snapshot.IsFaithful u.source.log := by
  induction hrun with
  | refl => exact h
  | next m _ hallowed hcan ih => exact isFaithful_after ih hallowed hcan

/--
Whatever happens to a session whose log is only appended to: a window that its tail holds is not
empty, is the part of the log that it is said to be, and ends no later than the log was heard to
end.
-/
theorem window_faithful {t : Tail} (ht : t.Prepared) (source : MemorySource) (now : Nat)
    {s : Session} (hrun : Run (fun m => ∀ n, m ≠ .truncate n) ⟨t, source, now⟩ s) {start : Nat}
    (hstart : s.tail.snapshot.offset = some start)
    : s.tail.snapshot.bytes ≠ []
        ∧
      s.tail.snapshot.bytes
          =
        s.source.log.window start (start + s.tail.snapshot.bytes.length)
        ∧
      start + s.tail.snapshot.bytes.length ≤ s.tail.snapshot.total
        ∧
      s.tail.snapshot.total ≤ s.source.log.size := by
  have hinit : t.snapshot.IsFaithful source.log := Snapshot.isFaithful_of_unloaded ht.offset_eq
  obtain ⟨stop, hholds, hlt, hstop, htotal⟩ := isFaithful_of_run hinit hrun start hstart
  refine ⟨?_, ?_, ?_, htotal⟩
  . rw [← List.length_pos_iff, hholds.length_bytes]
    omega
  . rw [hholds.start_add_length]
    exact hholds.bytes
  . rw [hholds.start_add_length]
    exact hstop

/-- The last two bytes of a log are read, a byte is written to it, and a poll reads that one too. -/
theorem window_faithful_growth
    : ∃ s, Run (fun m => ∀ n, m ≠ .truncate n)
          ⟨Tail.ofConfig { chunkSize := 2, follow := true } "log",
            { log := ⟨[97, 98, 10, 99]⟩ }, 0⟩ s
        ∧ s.tail.snapshot.offset = some 2
        ∧ s.tail.snapshot.bytes = s.source.log.window 2 (2 + s.tail.snapshot.bytes.length)
        ∧ 2 + s.tail.snapshot.bytes.length ≤ s.tail.snapshot.total := by
  let t := Tail.ofConfig { chunkSize := 2, follow := true } "log"
  let source : MemorySource := { log := ⟨[97, 98, 10, 99]⟩ }
  have hrun : Run (fun m => ∀ n, m ≠ .truncate n) ⟨t, source, 0⟩ _ := Run.refl
    |>.next (.tail .launch) nofun trivial
    |>.next (.tail .contact) nofun trivial
    |>.next (.tail (.event (.fetched (.ok ⟨2, [10, 99], 4⟩)))) nofun
      (fetched_mem_ready.mpr ⟨_, rfl, rfl, rfl⟩)
    |>.next (.append [100]) nofun trivial
    |>.next (.advance 500) nofun trivial
    |>.next (.tail (.event .poll)) nofun (poll_mem_ready.mpr ⟨500, rfl, by decide⟩)
    |>.next (.tail .contact) nofun trivial
    |>.next (.tail (.event (.fetched (.ok ⟨3, [99, 100], 5⟩)))) nofun
      (fetched_mem_ready.mpr ⟨_, rfl, rfl, rfl⟩)
  have hwindow := window_faithful (.ofConfig _ _) source 0 hrun (Eq.refl (some 2))
  exact ⟨_, hrun, rfl, hwindow.2.1, hwindow.2.2.1⟩

end Session
end RangeTail
