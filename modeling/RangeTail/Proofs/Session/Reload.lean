import RangeTail.Proofs.Session.Answer
import RangeTail.Proofs.Session.Window
import RangeTail.Proofs.Tail.Diary

/-!
This module contains the proof that a reload takes up a log where its window began. The position is
noted in the store while the window moves, and the first request of a tail that begins with what was
noted reads from there; a log that was only appended to since then still has bytes there.
-/

namespace RangeTail

theorem MemoryLog.exists_serve_span {log : MemoryLog} {first last : Nat} (hsize : log.size ≤ maxOffset)
    (hle : first ≤ last) (hlt : first < log.size)
    : ∃ c, log.serve (.span first last) = .ok c ∧ c.offset = first := by
  have hbounds : (bounds log.size (.span first last)).1 < (bounds log.size (.span first last)).2 := by
    simp only [bounds, addClamped]
    omega
  obtain ⟨c, hc, hoffset, _⟩ := exists_serve hbounds
  exact ⟨c, hc, hoffset⟩

namespace Session

/-- The log is only appended to, the tail is not cancelled, and nobody else writes to its store. -/
def Move.IsUndisturbed : Move → Prop
  | .tail m => m.IsUndisturbed
  | .truncate _ => False
  | _ => True

/-- The log is only appended to, and neither is the tail cancelled nor does an answer come. -/
def Move.IsPatient : Move → Prop
  | .tail m => m ≠ .command .cancel ∧ ∀ answer, m ≠ .event (.fetched answer)
  | .truncate _ => False
  | _ => True

/-- No window is held yet, and the range is asked for. -/
structure Asks (s : Session) (r : ByteRange) : Prop where
  offset : s.tail.snapshot.offset = none
  inFlight : ∃ f, s.tail.inFlight = some f ∧ f.range = r

variable {s u : Session} {m : Move} {r : ByteRange} {start : Nat}

theorem log_of_run {allowed : Move → Prop} (hrun : Run allowed s u)
    (hallowed : ∀ m, allowed m → ∀ n, m ≠ .truncate n)
    : s.source.log.bytes <+: u.source.log.bytes := by
  induction hrun with
  | refl => exact List.prefix_rfl
  | next m _ hm _ ih => exact ih.trans (after_log (hallowed m hm))

theorem Move.IsUndisturbed.ne_truncate (h : m.IsUndisturbed) (n : Nat) : m ≠ .truncate n := by
  rintro rfl
  exact h

theorem Move.IsPatient.ne_truncate (h : m.IsPatient) (n : Nat) : m ≠ .truncate n := by
  rintro rfl
  exact h

theorem Asks.after (h : s.Asks r) (hm : m.IsPatient) : (s.after m).Asks r := by
  cases m with
  | tail m =>
    obtain ⟨f, hf, hrange⟩ := h.inFlight
    constructor
    . rw [after_tail]
      rcases s.tail.after_snapshot s.now m with ⟨follow, heq⟩ | ⟨_, answer, hanswer, _⟩
      . rw [heq]
        exact h.offset
      . exact absurd hanswer (hm.2 answer)
    . rw [after_tail]
      have hkeeps : s.tail.Keeps (s.tail.after s.now m) := Tail.keeps_after hm.1 hm.2
      obtain ⟨g, hg, hsame, _⟩ := hkeeps f hf
      exact ⟨g, hg, hsame.trans hrange⟩
  | _ => exact ⟨h.offset, h.inFlight⟩

theorem asks_of_run (h : s.Asks r) (hrun : Run (·.IsPatient) s u) : u.Asks r := by
  induction hrun with
  | refl => exact h
  | next m _ hm _ ih => exact ih.after hm

/-- The first window begins with the range that was asked for, unless the source was made to fail. -/
theorem Asks.offset_of_fetched {first last : Nat} (h : s.Asks (.span first last)) (hle : first ≤ last)
    (hlt : first < s.source.log.size) (hsize : s.source.log.size ≤ maxOffset)
    {answer : Except Fault Chunk} (hready : .fetched answer ∈ s.ready)
    : (∃ fault ∈ s.source.failures, answer = .error fault)
        ∨
      (s.fire (.fetched answer)).tail.snapshot.offset = some first := by
  obtain ⟨f, hf, _, hanswer⟩ := fetched_mem_ready.mp hready
  obtain ⟨g, hg, hrange⟩ := h.inFlight
  obtain rfl : f = g := Option.some.inj (hf.symm.trans hg)
  rcases answer_eq hanswer with hfault | ⟨_, rfl⟩
  . exact .inl hfault
  . right
    obtain ⟨c, hserve, hoffset⟩ := MemoryLog.exists_serve_span hsize hle hlt
    rw [fire_fetched hf, Tail.complete_snapshot, hrange, hserve]
    dsimp only [Snapshot.answered]
    rw [Snapshot.merge_of_splice (Snapshot.splice_of_unloaded h.offset), ← hoffset]
    rfl

/-- A window that is held of a log begins at one of its bytes. -/
theorem lt_size_of_run {t : Tail} (ht : t.Prepared) {source : MemorySource} {now : Nat}
    (hrun : Run (·.IsUndisturbed) ⟨t, source, now⟩ s)
    (hstart : s.tail.snapshot.offset = some start)
    : start < s.source.log.size := by
  have happend : Run (fun m => ∀ n, m ≠ .truncate n) ⟨t, source, now⟩ s :=
    hrun.mono fun _ hm => hm.ne_truncate
  have hinit : t.snapshot.IsFaithful source.log := Snapshot.isFaithful_of_unloaded ht.offset_eq
  obtain ⟨stop, hholds, hlt, _⟩ := isFaithful_of_run hinit happend start hstart
  exact Nat.lt_of_lt_of_le hlt hholds.stop_le

/--
While the window moves its beginning is noted in the store, be that one of the two kinds that a tail can
be given or of any kind that gives back what was put into it last. A tail that takes such a store up asks
first for the bytes from there on; and if the log was only appended to and the source is not made to
fail, the first window that it holds begins there.
-/
theorem reload_resumes {t : Tail} (ht : t.Prepared)
    : (∀ notes u start, t.Diary notes u → u.snapshot.offset = some start →
        (∀ p ∈ t.offsetParam, ∃ store,
            u.offsetParam = some { p with store } ∧ store.get? p.name = some (toString start))
          ∧ ∀ (σ : Type) (get : σ → String → Option String) (set : σ → String → String → σ)
              (name : String) (s : σ),
              (∀ s value, get (set s name value) name = some value) →
                get (noted set name notes s) name = some (toString start))
        ∧
      ∀ start (b : Tail) now, b.TakesUp start → start ≤ maxOffset →
        let asked := ByteRange.span start (addClamped start b.config.chunkSize)
        (b.launch now).inFlight = some { range := asked, started := now }
          ∧ ∀ source before s, Run (·.IsUndisturbed) ⟨t, source, before⟩ s →
              s.tail.snapshot.offset = some start →
                ∀ after u, s.source.log.bytes <+: after.log.bytes →
                  Run (·.IsPatient) ⟨b.launch now, after, now⟩ u → u.source.log.size ≤ maxOffset →
                    u.tail.snapshot.offset = none
                      ∧ ∀ answer, .fetched answer ∈ u.ready →
                          (∃ fault ∈ u.source.failures, answer = .error fault)
                            ∨ (u.fire (.fetched answer)).tail.snapshot.offset = some start := by
  constructor
  . intro notes u start hdiary hstart
    have hlast := hdiary.getLast?_eq ht.offset_eq hstart
    constructor
    . intro p hp
      refine ⟨noted QueryStore.set p.name notes p.store, ?_, ?_⟩
      . rw [hdiary.offsetParam_eq, Option.mem_def.mp hp]
        rfl
      . exact get_noted (QueryStore.get?_set · p.name) hlast
    . intro σ get set name s hset
      exact get_noted hset hlast
  . intro start b now hb hle asked
    have hlaunch : (b.launch now).inFlight = some { range := asked, started := now } :=
      hb.launch_inFlight hle
    refine ⟨hlaunch, ?_⟩
    intro source before s hs hstart after u hgrown hu hsize
    have hlog := log_of_run hu fun _ hm => hm.ne_truncate
    have hlt : start < u.source.log.size :=
      Nat.lt_of_lt_of_le (lt_size_of_run ht hs hstart) (hgrown.trans hlog).length_le
    have hbegin : Asks ⟨b.launch now, after, now⟩ asked := by
      refine ⟨?_, _, hlaunch, rfl⟩
      rw [Tail.launch_snapshot]
      exact hb.offset_eq
    have hasks := asks_of_run hbegin hu
    refine ⟨hasks.offset, ?_⟩
    intro answer hready
    exact hasks.offset_of_fetched (le_addClamped hle _) hlt hsize hready

/-- The end of a log is read and what is before it, a byte is written, and the log is opened anew. -/
theorem reload_resumes_grown
    : let t := (Tail.ofConfig { chunkSize := 2 } "log").withStore (.memory [("view", "raw")])
      let s := [.tail .launch, .tail .contact, .tail (.event (.fetched (.ok ⟨3, [100, 101], 5⟩))),
        .tail (.command .loadPrevious), .tail .contact,
        .tail (.event (.fetched (.ok ⟨1, [98, 99], 5⟩)))].foldl after
          ⟨t, { log := ⟨[97, 98, 99, 100, 101]⟩ }, 0⟩
      let store := .memory [("view", "raw"), ("offset", "1")]
      let b := (Tail.ofConfig { chunkSize := 3 } "log").withStore store
      let u := [.tail .contact, .tail (.command (.jumpTo 5))].foldl after
        ⟨b.launch 7, { log := ⟨[97, 98, 99, 100, 101, 102]⟩ }, 7⟩
      s.tail.offsetParam.bind (·.value?) = some "1"
        ∧ s.tail.offsetParam = some ⟨store, "offset"⟩
        ∧ noted (fun s key value => Function.update s key (some value)) "offset" [3, 1]
            (fun _ => none) "offset" = some "1"
        ∧ (b.launch 7).inFlight = some { range := .span 1 4, started := 7 }
        ∧ (u.fire (.fetched (.ok ⟨1, [98, 99, 100, 101], 6⟩))).tail.snapshot.offset = some 1 := by
  intro t s store b u
  have ht : t.Prepared := .withStore _ (.ofConfig _ _)
  have hnil : t.Diary [] t := .nil
  have hdiary : t.Diary [3, 1] s.tail := hnil
    |>.next 0 .launch trivial trivial
    |>.next 0 .contact trivial trivial
    |>.next 0 (.event (.fetched (.ok ⟨3, [100, 101], 5⟩))) trivial rfl
    |>.next 0 (.command .loadPrevious) nofun trivial
    |>.next 0 .contact trivial trivial
    |>.next 0 (.event (.fetched (.ok ⟨1, [98, 99], 5⟩))) trivial rfl
  have hrefl (allowed : Move → Prop) (s : Session) : Run allowed s s := .refl
  have hs : Run (·.IsUndisturbed) ⟨t, { log := ⟨[97, 98, 99, 100, 101]⟩ }, 0⟩ s := hrefl _ _
    |>.next (.tail .launch) trivial trivial
    |>.next (.tail .contact) trivial trivial
    |>.next (.tail (.event (.fetched (.ok ⟨3, [100, 101], 5⟩)))) trivial
      (chunk_mem_ready (by decide +kernel))
    |>.next (.tail (.command .loadPrevious)) nofun trivial
    |>.next (.tail .contact) trivial trivial
    |>.next (.tail (.event (.fetched (.ok ⟨1, [98, 99], 5⟩)))) trivial
      (chunk_mem_ready (by decide +kernel))
  have hu : Run (·.IsPatient) ⟨b.launch 7, { log := ⟨[97, 98, 99, 100, 101, 102]⟩ }, 7⟩ u :=
    hrefl _ _
      |>.next (.tail .contact) ⟨nofun, nofun⟩ trivial
      |>.next (.tail (.command (.jumpTo 5))) ⟨nofun, nofun⟩ trivial
  have hoffset : s.tail.snapshot.offset = some 1 := by decide +kernel
  obtain ⟨hnoted, hresumes⟩ := reload_resumes ht
  obtain ⟨hown, hany⟩ := hnoted _ _ 1 hdiary hoffset
  obtain ⟨kept, hkept, hvalue⟩ := hown ⟨.memory [("view", "raw")], "offset"⟩ rfl
  have hb : b.TakesUp 1 :=
    ⟨.ofConfig { chunkSize := 3 } "log", store, .ofConfig _ _, by decide +kernel, rfl⟩
  obtain ⟨hfirst, hlater⟩ := hresumes 1 b 7 hb (by decide)
  obtain ⟨_, hanswer⟩ := hlater _ 0 s hs hoffset _ u (List.prefix_append _ _) hu (by decide +kernel)
  have hready : .fetched (.ok ⟨1, [98, 99, 100, 101], 6⟩) ∈ u.ready :=
    chunk_mem_ready (by decide +kernel)
  have hfailures : u.source.failures = [] := by decide +kernel
  rw [hfailures] at hanswer
  have hbegins := (hanswer _ hready).resolve_left nofun
  have hread : s.tail.offsetParam.bind (·.value?) = some "1" := by
    rw [hkept]
    exact hvalue
  refine ⟨hread, by decide +kernel, ?_, hfirst, hbegins⟩
  apply hany (String → Option String) fun s key => s key
  intro s value
  apply Function.update_self

end Session
end RangeTail
