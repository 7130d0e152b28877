import RangeTail.Proofs.Session.Answer
import RangeTail.Proofs.Session.Errand
import RangeTail.Proofs.Session.Window
import RangeTail.Proofs.Snapshot.Bytes
import RangeTail.Proofs.Tail.Failure

/-!
This module contains the proof that reading next to the window never loses a byte of it. What follows
the window is read, or what lies before it, and in the meantime the window may have grown in front
and behind: as long as the byte that it began with is still held when the bytes before that one are
read, the two leave no gap.
-/

namespace RangeTail

namespace Errand

/-- The errand is one of reading next to a window. -/
def isNear : Errand → Bool
  | .growth => true
  | .previous _ => true
  | _ => false

/-- The errand is one of reading next to a window that is, or has become, the one from `start` up to
`stop`. -/
def Adjoins (start stop : Nat) : Errand → Prop
  | .growth => True
  | .previous first => start ≤ first ∧ first < stop
  | _ => False

theorem Adjoins.mono {e : Errand} {start stop first last : Nat} (h : e.Adjoins start stop)
    (hfirst : first ≤ start) (hlast : stop ≤ last)
    : e.Adjoins first last := by
  cases e with
  | previous n => exact ⟨Nat.le_trans hfirst h.1, Nat.lt_of_lt_of_le h.2 hlast⟩
  | _ => exact h

end Errand

namespace Snapshot

/-- The window of `u` reaches at least as far to both sides as the one of `s`, and holds all that is
held there. -/
def Covers (u s : Snapshot) : Prop :=
  ∃ start stop first last, s.offset = some start ∧ s.stop = some stop
    ∧ u.offset = some first ∧ u.stop = some last
    ∧ first ≤ start ∧ stop ≤ last
    ∧ ∀ p byte, s.byteAt p = some byte → u.byteAt p = some byte

variable {s u : Snapshot} {log file : MemoryLog} {start stop first last chunkSize : Nat}

theorem Holds.byteAt_eq_some_iff (h : s.Holds log start stop) {p : Nat} {byte : UInt8}
    : s.byteAt p = some byte ↔ start ≤ p ∧ p < stop ∧ log.bytes[p]? = some byte := by
  rw [byteAt_of_loaded h.offset, h.bytes]
  constructor
  . intro hbyte
    have hle : start ≤ p := (isSome_heldAt.mp (Option.isSome_of_mem hbyte)).1
    rw [heldAt_of_le hle] at hbyte
    obtain ⟨hget, hlt⟩ := MemoryLog.getElem?_of_window hbyte
    have hp : start + (p - start) = p := by omega
    rw [hp] at hget hlt
    exact ⟨hle, hlt, hget⟩
  . rintro ⟨hle, hlt, hget⟩
    have hp : start + (p - start) = p := by omega
    rw [heldAt_of_le hle, MemoryLog.getElem?_window log (by omega), hp]
    exact hget

theorem Holds.covers (hs : s.Holds log start stop) (hu : u.Holds file first last)
    (hfile : log.bytes <+: file.bytes) (hfirst : first ≤ start) (hlast : stop ≤ last)
    : u.Covers s := by
  refine ⟨start, stop, first, last, hs.offset, hs.stop_eq, hu.offset, hu.stop_eq, hfirst, hlast, ?_⟩
  intro p byte hbyte
  obtain ⟨hle, hlt, hget⟩ := hs.byteAt_eq_some_iff.mp hbyte
  obtain ⟨more, hmore⟩ := hfile
  have hlength : p < log.bytes.length := Nat.lt_of_lt_of_le hlt hs.stop_le
  apply hu.byteAt_eq_some_iff.mpr
  rw [← hmore, List.getElem?_append_left hlength]
  exact ⟨by omega, by omega, hget⟩

/-- What is read next to a window leaves no gap to it. -/
theorem Holds.exists_serve (h : s.Holds log start stop) (hne : start < stop)
    (hsize : log.size ≤ maxOffset) {e : Errand} (he : e.Adjoins start stop)
    : ∃ c, log.serve (e.range s chunkSize) = .ok c ∧ start ≤ c.stop ∧ c.offset ≤ stop := by
  have hstop := h.stop_le
  have hbounds : ∃ first last, MemoryLog.bounds log.size (e.range s chunkSize) = (first, last)
      ∧ first < last ∧ start ≤ last ∧ first ≤ stop := by
    cases e with
    | growth =>
      refine ⟨_, _, MemoryLog.bounds_growth hsize h.stop_eq chunkSize, ?_, ?_, ?_⟩ <;> omega
    | previous first =>
      obtain ⟨hstart, hlt⟩ := he
      dsimp only [Errand.range, Errand.directive?, nextRange]
      rw [h.offset]
      refine ⟨_, _, rfl, ?_⟩
      unfold addClamped
      -- a window that begins behind the target is read up to, and any other one is read from
      split <;> omega
    | _ => exact False.elim he
  obtain ⟨first, last, hrange, hlt, hstart, hfirst⟩ := hbounds
  have hsome : (MemoryLog.bounds log.size (e.range s chunkSize)).1
      < (MemoryLog.bounds log.size (e.range s chunkSize)).2 := by
    rw [hrange]
    exact hlt
  obtain ⟨c, hc, hoffset, hcstop⟩ := MemoryLog.exists_serve hsome
  rw [hrange] at hoffset hcstop
  refine ⟨c, hc, ?_, ?_⟩
  . rw [hcstop]
    exact hstart
  . rw [hoffset]
    exact hfirst

end Snapshot

/-- The log grows, time passes and the source may fail, and the tail is told nothing but to read what
lies before the window, or to follow no longer. -/
def Session.Move.isNear : Session.Move → Bool
  | .tail (.command .loadPrevious) => true
  | .tail (.command (.follow false)) => true
  | .tail (.command _) => false
  | m => m.isHonest

theorem Session.Move.isHonest_of_isNear {m : Session.Move} (h : m.isNear) : m.isHonest := by
  cases m with
  | tail m => rfl
  | _ => exact h

namespace Agenda

/-- A window from `start` up to `stop` is held, and nothing but reading next to it is on the
agenda. -/
structure StaysNear (a : Agenda) (start stop : Nat) : Prop where
  kept : a.IsKept
  holds : a.session.tail.snapshot.Holds a.session.source.log start stop
  lt : start < stop
  plans : a.Plans (·.Adjoins start stop)
  honest : a.session.source.IsHonest

variable {a b c : Agenda} {start stop first last : Nat} {m : Session.Move}

/-- Nothing but what lies before the window can be told to be read. -/
theorem StaysNear.told (h : a.StaysNear start stop) {m : Tail.Move}
    (hm : Session.Move.isNear (.tail m))
    : ∀ e ∈ a.session.tail.errand? m, e.Adjoins start stop := by
  intro e he
  unfold Tail.errand? at he
  split at he
  . simp [Session.Move.isNear] at hm
  . rw [h.holds.offset] at he
    dsimp only at he
    split at he
    . obtain rfl := Option.some.inj he
      exact ⟨Nat.le_refl _, h.lt⟩
    . contradiction
  . simp [Session.Move.isNear] at hm
  . simp [Session.Move.isNear] at hm
  . contradiction

/-- The answer to a request next to the window leaves the window as it is, or extends it. -/
theorem StaysNear.holds_after (h : a.StaysNear start stop) {m : Tail.Move}
    (hcan : a.session.CanHappen (.tail m)) (hsize : a.session.source.log.size ≤ maxOffset)
    : ∃ first last, first ≤ start ∧ stop ≤ last
        ∧ (a.session.after (.tail m)).tail.snapshot.Holds a.session.source.log first last := by
  rcases Session.after_snapshot hcan with ⟨follow, heq⟩ | ⟨f, answer, latency, rfl, hf, heq, hanswer⟩
  . rw [heq]
    exact ⟨start, stop, Nat.le_refl _, Nat.le_refl _, h.holds.withFollow follow⟩
  . rw [heq]
    rcases hanswer with ⟨fault, hfault, rfl⟩ | ⟨_, rfl⟩
    . rw [Snapshot.answered_fault (h.honest fault hfault)]
      exact ⟨start, stop, Nat.le_refl _, Nat.le_refl _, h.holds.withFailure _⟩
    . obtain ⟨e, he, hmade⟩ := h.kept.current f hf
      obtain ⟨c, hserve, hstart, hoffset⟩ :=
        h.holds.exists_serve h.lt hsize (h.plans.current e he)
      rw [hmade.range, hserve]
      obtain ⟨hc, _⟩ := MemoryLog.isOf_of_serve hserve
      exact ⟨_, _, Nat.min_le_left _ _, Nat.le_max_left _ _,
        h.holds.merge_of_touches hc hstart hoffset⟩

theorem StaysNear.after_tail (h : a.StaysNear start stop) {m : Tail.Move}
    (hm : Session.Move.isNear (.tail m)) (hcan : a.session.CanHappen (.tail m))
    (hsize : a.session.source.log.size ≤ maxOffset)
    : ∃ first last, first ≤ start ∧ stop ≤ last ∧ (a.after (.tail m)).StaysNear first last := by
  obtain ⟨first, last, hfirst, hlast, hholds⟩ := h.holds_after hcan hsize
  have hself : Errand.Adjoins first last
      (.unprompted (a.session.tail.after a.session.now m).snapshot) := by
    rw [Session.after_tail] at hholds
    simp [Errand.unprompted, Snapshot.isLoaded, hholds.offset, Errand.Adjoins]
  have hplans : a.Plans (·.Adjoins first last) := h.plans.mono fun _ he => he.mono hfirst hlast
  refine ⟨first, last, hfirst, hlast, h.kept.after_tail m, ?_, ?_, ?_, ?_⟩
  . dsimp only [Agenda.after]
    rw [Session.after_tail_log]
    exact hholds
  . have := h.lt
    omega
  . apply hplans.after _ hself
    exact fun e he => (h.told hm e he).mono hfirst hlast
  . exact Session.isHonest_after h.honest (Session.Move.isHonest_of_isNear hm)

theorem StaysNear.after (h : a.StaysNear start stop) (hm : m.isNear)
    (hcan : a.session.CanHappen m) (hsize : a.session.source.log.size ≤ maxOffset)
    : ∃ first last, first ≤ start ∧ stop ≤ last ∧ (a.after m).StaysNear first last := by
  have hhonest := Session.isHonest_after h.honest (Session.Move.isHonest_of_isNear hm)
  cases m with
  | tail m => exact h.after_tail hm hcan hsize
  | append more =>
    exact ⟨start, stop, Nat.le_refl _, Nat.le_refl _,
      ⟨h.kept.after _, h.holds.append more, h.lt, ⟨h.plans.current, h.plans.next⟩, hhonest⟩⟩
  | truncate n => contradiction
  | _ =>
    exact ⟨start, stop, Nat.le_refl _, Nat.le_refl _,
      ⟨h.kept.after _, h.holds, h.lt, ⟨h.plans.current, h.plans.next⟩, hhonest⟩⟩

theorem log_of_run {allowed : Session.Move → Prop} (hrun : Run allowed a b)
    (hallowed : ∀ m, allowed m → ∀ n, m ≠ .truncate n)
    : a.session.source.log.bytes <+: b.session.source.log.bytes := by
  induction hrun with
  | refl => exact List.prefix_rfl
  | next m _ hm _ ih => exact ih.trans (Session.after_log (hallowed m hm))

theorem staysNear_of_run (h : a.StaysNear start stop) (hrun : Run (·.isNear) a b)
    (hsize : b.session.source.log.size ≤ maxOffset)
    : ∃ first last, first ≤ start ∧ stop ≤ last ∧ b.StaysNear first last := by
  induction hrun with
  | refl => exact ⟨start, stop, Nat.le_refl _, Nat.le_refl _, h⟩
  | @next b m _ hm hcan ih =>
    have hlog := (Session.after_log (s := b.session)
      (Session.Move.ne_truncate (Session.Move.isHonest_of_isNear hm))).length_le
    obtain ⟨first, last, hfirst, hlast, hb⟩ := ih (Nat.le_trans hlog hsize)
    obtain ⟨first', last', hfirst', hlast', hnext⟩ :=
      hb.after hm hcan (Nat.le_trans hlog hsize)
    exact ⟨first', last', by omega, by omega, hnext⟩

theorem StaysNear.not_emptyFile (h : a.StaysNear start stop)
    (hsize : a.session.source.log.size ≤ maxOffset) (total : Nat)
    : .fetched (.error (.emptyFile total)) ∉ a.session.ready := by
  intro hready
  obtain ⟨f, hf, _, hanswer⟩ := Session.fetched_mem_ready.mp hready
  rcases Session.answer_eq hanswer with ⟨fault, hfault, heq⟩ | ⟨_, hserve⟩
  . exact h.honest fault hfault total (Except.error.inj heq).symm
  . obtain ⟨e, he, hmade⟩ := h.kept.current f hf
    obtain ⟨c, hc, _⟩ := h.holds.exists_serve h.lt hsize (h.plans.current e he)
    rw [hmade.range, hc] at hserve
    contradiction

/--
A window is held of a log that is only appended to, and nothing is on the agenda but to read what
follows it, or what lies before a byte that it holds and began with at the time. From then on no more
is told than to read what lies before the window, or to follow no longer. Whatever else happens, and
whatever fails, the window only grows to both sides, each byte that was held once stays held, and no
request is answered by the news that the file is empty.
-/
theorem window_only_widens {t : Tail} (ht : t.Prepared) (source : MemorySource) (now : Nat)
    (ha : Run (fun m => ∀ n, m ≠ .truncate n) (ofSession ⟨t, source, now⟩) a)
    (hstart : a.session.tail.snapshot.offset = some start)
    (hstop : a.session.tail.snapshot.stop = some stop)
    (hcurrent : ∀ e ∈ a.current, e.Adjoins start stop) (hnext : ∀ e ∈ a.next, e.Adjoins start stop)
    (hhonest : a.session.source.IsHonest) (hb : Run (·.isNear) a b) (hc : Run (·.isNear) b c)
    (hsize : c.session.source.log.size ≤ maxOffset)
    : c.session.tail.snapshot.Covers b.session.tail.snapshot
        ∧ ∀ total, .fetched (.error (.emptyFile total)) ∉ c.session.ready := by
  have hfaithful := Session.isFaithful_of_run (Snapshot.isFaithful_of_unloaded ht.offset_eq) ha.session
  obtain ⟨stop', hholds, hlt, _⟩ := hfaithful start hstart
  obtain rfl : stop' = stop := by
    rw [hholds.stop_eq] at hstop
    exact Option.some.inj hstop
  have hnear : a.StaysNear start stop' :=
    ⟨isKept_of_run (isKept_ofSession ht source now) ha, hholds, hlt, ⟨hcurrent, hnext⟩, hhonest⟩
  have hlog : b.session.source.log.bytes <+: c.session.source.log.bytes :=
    log_of_run hc (fun _ hm => Session.Move.ne_truncate (Session.Move.isHonest_of_isNear hm))
  obtain ⟨first, last, _, _, hb'⟩ :=
    staysNear_of_run hnear hb (Nat.le_trans hlog.length_le hsize)
  obtain ⟨first', last', hfirst, hlast, hc'⟩ := staysNear_of_run hb' hc hsize
  exact ⟨hb'.holds.covers hc'.holds hlog hfirst hlast, hc'.not_emptyFile hsize⟩

/-- What lies before the window is asked for twice, and the second request is made for a window that
has grown meanwhile. -/
theorem window_only_widens_twice
    : let source : MemorySource := { log := ⟨[97, 98, 99, 100, 101]⟩ }
      let a := [.tail .launch, .tail .contact,
        .tail (.event (.fetched (.ok ⟨3, [100, 101], 5⟩)))].foldl after
          (ofSession ⟨.ofConfig { chunkSize := 2 } "log", source, 0⟩)
      let b := [.tail (.command .loadPrevious), .tail (.command .loadPrevious)].foldl after a
      let c := [.tail .contact, .append [102], .tail (.event (.fetched (.ok ⟨1, [98, 99], 6⟩))),
        .tail .contact, .tail (.event (.fetched (.ok ⟨1, [98, 99, 100], 6⟩)))].foldl after b
      b.current = some (.previous 3)
        ∧ b.next = some (.previous 3)
        ∧ c.session.tail.snapshot.offset = some 1
        ∧ c.session.tail.snapshot.Covers b.session.tail.snapshot := by
  intro source a b c
  have hrefl (a : Agenda) (allowed : Session.Move → Prop) : Run allowed a a := .refl
  have ha : Run (fun m => ∀ n, m ≠ .truncate n) _ a := hrefl _ _
    |>.next (.tail .launch) nofun trivial
    |>.next (.tail .contact) nofun trivial
    |>.next (.tail (.event (.fetched (.ok ⟨3, [100, 101], 5⟩)))) nofun
      (Session.chunk_mem_ready (by decide +kernel))
  have hb : Run (·.isNear) a b := hrefl a (·.isNear)
    |>.next (.tail (.command .loadPrevious)) rfl trivial
    |>.next (.tail (.command .loadPrevious)) rfl trivial
  have hc : Run (·.isNear) b c := hrefl b (·.isNear)
    |>.next (.tail .contact) rfl trivial
    |>.next (.append [102]) rfl trivial
    |>.next (.tail (.event (.fetched (.ok ⟨1, [98, 99], 6⟩)))) rfl
      (Session.chunk_mem_ready (by decide +kernel))
    |>.next (.tail .contact) rfl trivial
    |>.next (.tail (.event (.fetched (.ok ⟨1, [98, 99, 100], 6⟩)))) rfl
      (Session.chunk_mem_ready (by decide +kernel))
  have hstart : a.session.tail.snapshot.offset = some 3 := by decide +kernel
  have hstop : a.session.tail.snapshot.stop = some 5 := by decide +kernel
  have hcurrent : a.current = none := by decide +kernel
  have hnext : a.next = none := by decide +kernel
  have hcovers := window_only_widens (.ofConfig _ _) source 0 ha hstart hstop (by simp [hcurrent])
    (by simp [hnext]) nofun hb hc (by decide +kernel)
  exact ⟨by decide +kernel, by decide +kernel, by decide +kernel, hcovers.1⟩

/-- What lies before a window is asked for while a jump is on its way. The jump replaces the window,
and then what was before the old one replaces the new one. -/
theorem previous_of_replaced_window_loses_bytes
    : ¬ ∀ (t : Tail) (source : MemorySource) (now : Nat) (a b c : Agenda), t.Prepared →
        Run (fun m => ∀ n, m ≠ .truncate n) (ofSession ⟨t, source, now⟩) a →
          a.session.tail.snapshot.isLoaded → (∀ e ∈ a.current, e.isNear) →
            (∀ e ∈ a.next, e.isNear) → a.session.source.IsHonest → Run (·.isNear) a b →
              Run (·.isNear) b c → c.session.source.log.size ≤ maxOffset →
                c.session.tail.snapshot.Covers b.session.tail.snapshot
                  ∧ ∀ total, .fetched (.error (.emptyFile total)) ∉ c.session.ready := by
  intro h
  let source : MemorySource := { log := ⟨[97, 98, 99, 100, 101]⟩ }
  let a := [.tail .launch, .tail .contact, .tail (.event (.fetched (.ok ⟨4, [101], 5⟩))),
    .tail (.command (.jumpTo 0)), .tail (.command .loadPrevious), .tail .contact,
    .tail (.event (.fetched (.ok ⟨0, [97, 98], 5⟩)))].foldl after
      (ofSession ⟨.ofConfig { chunkSize := 1 } "log", source, 0⟩)
  have hrefl (a : Agenda) (allowed : Session.Move → Prop) : Run allowed a a := .refl
  have ha : Run (fun m => ∀ n, m ≠ .truncate n) _ a := hrefl _ _
    |>.next (.tail .launch) nofun trivial
    |>.next (.tail .contact) nofun trivial
    |>.next (.tail (.event (.fetched (.ok ⟨4, [101], 5⟩)))) nofun
      (Session.chunk_mem_ready (by decide +kernel))
    |>.next (.tail (.command (.jumpTo 0))) nofun trivial
    |>.next (.tail (.command .loadPrevious)) nofun trivial
    |>.next (.tail .contact) nofun trivial
    |>.next (.tail (.event (.fetched (.ok ⟨0, [97, 98], 5⟩)))) nofun
      (Session.chunk_mem_ready (by decide +kernel))
  have hc := hrefl a (·.isNear)
    |>.next (.tail .contact) rfl trivial
    |>.next (.tail (.event (.fetched (.ok ⟨3, [100, 101], 5⟩)))) rfl
      (Session.chunk_mem_ready (by decide +kernel))
  have hcurrent : a.current = some (.previous 4) := by decide +kernel
  have hnext : a.next = none := by decide +kernel
  obtain ⟨⟨_, _, _, _, _, _, _, _, _, _, hbyte⟩, _⟩ := h _ source 0 a a _ (.ofConfig _ _) ha
    (by decide +kernel) (by simp [hcurrent, Errand.isNear]) (by simp [hnext]) nofun .refl hc
    (by decide +kernel)
  have hlost := hbyte 0 97 (by decide +kernel)
  revert hlost
  decide +kernel

end Agenda
end RangeTail
