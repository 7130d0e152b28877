import RangeTail.Proofs.Snapshot.Overflow
import RangeTail.Proofs.Tail.Account
import RangeTail.Proofs.Tail.Snapshot

/-!
This module contains the proof that whatever happens to a tail, the request that it has on its way is
one that can be made, given what it holds and the instruction that the request was made by.
-/

namespace RangeTail

namespace Tail

/-- The positions that a command names or an answer tells of are ones that 64 bits hold. -/
def Move.Fits : Move → Prop
  | .command (.jumpTo offset) => offset ≤ maxOffset
  | .event (.fetched (.ok c)) => c.stop ≤ maxOffset ∧ c.total ≤ maxOffset
  | .event (.fetched (.error (.emptyFile total))) => total ≤ maxOffset
  | _ => True

/-- So are the ones that the tail knows of. -/
structure Fits (t : Tail) : Prop where
  snapshot : t.snapshot.Fits
  total : t.snapshot.total ≤ maxOffset
  pending : Directive.Fits t.pending

variable {t : Tail} {now : Nat} {m : Move}

theorem Fits.toEnd? (h : t.Fits) : Directive.Fits t.toEnd? := by
  intro d hd
  unfold Tail.toEnd? at hd
  split at hd
  . obtain rfl := Option.some.inj hd
    have := h.total
    simp only [Directive.toEnd, Directive.offset]
    omega
  . contradiction

theorem Fits.loadPrevious (h : t.Fits)
    : Directive.Fits (Directive.loadPrevious t.snapshot t.config.chunkSize) := by
  intro d hd
  unfold Directive.loadPrevious at hd
  split at hd
  . contradiction
  . next start hstart =>
    split at hd
    . obtain rfl := Option.some.inj hd
      have := h.snapshot.offset_le hstart
      simp only [Directive.offset]
      omega
    . contradiction

theorem Fits.directive? (h : t.Fits) (hm : m.Fits) : Directive.Fits (t.directive? m) := by
  cases m with
  | command c =>
    cases c with
    | follow enabled =>
      cases enabled with
      | false => exact nofun
      | true =>
        dsimp only [Tail.directive?]
        split
        . exact nofun
        . exact h.toEnd?
    | loadPrevious => exact h.loadPrevious
    | skipToEnd => exact h.toEnd?
    | jumpTo offset =>
      rintro d ⟨⟩
      exact hm
    | cancel => exact nofun
  | _ => exact nofun

theorem Fits.waits (h : t.Fits) (hm : m.Fits) : Directive.Fits (t.waits m) := by
  intro d hd
  unfold Tail.waits at hd
  split at hd
  . contradiction
  . rcases Option.or_eq_some_iff.mp hd with hgiven | ⟨_, hpending⟩
    . exact h.directive? hm d hgiven
    . exact h.pending d hpending

theorem Fits.answered (h : t.Fits) {answer : Except Fault Chunk} (request : ByteRange)
    (latency : Nat) (hm : (Move.event (.fetched answer)).Fits)
    : (t.snapshot.answered request latency answer).Fits
        ∧
      (t.snapshot.answered request latency answer).total ≤ maxOffset := by
  cases answer with
  | ok c => exact ⟨h.snapshot.merge hm.1, hm.2⟩
  | error fault =>
    cases fault with
    | emptyFile total => exact ⟨Snapshot.fits_of_unloaded rfl, hm⟩
    | _ => exact ⟨h.snapshot, h.total⟩

theorem Fits.after (h : t.Fits) (now : Nat) (hm : m.Fits) : (t.after now m).Fits := by
  have hsnapshot : (t.after now m).snapshot.Fits ∧ (t.after now m).snapshot.total ≤ maxOffset := by
    rcases t.after_snapshot now m with ⟨follow, heq⟩ | ⟨f, answer, rfl, _, heq⟩
    . rw [heq]
      exact ⟨h.snapshot, h.total⟩
    . rw [heq]
      apply h.answered
      exact hm
  refine ⟨hsnapshot.1, hsnapshot.2, ?_⟩
  cases t.after_dispatch now m with
  | sent hsends _ =>
    rw [hsends.pending]
    exact nofun
  | waiting hpending _ =>
    rw [hpending]
    apply h.waits hm

theorem Prepared.fits (h : t.Prepared) (hpending : Directive.Fits t.pending) : t.Fits := by
  refine ⟨Snapshot.fits_of_unloaded h.offset_eq, ?_, hpending⟩
  clear hpending
  induction h with
  | ofConfig => exact Nat.zero_le _
  | withView _ _ ih => exact ih
  | withStore _ _ ih => exact ih
  | withOffset _ _ ih => exact ih

end Tail

namespace Account

variable {a b : Account} {m : Tail.Move}

/-- The request on its way is the one that was entered last, and asks for what the tail holds calls
for. -/
def IsCurrent (a : Account) : Prop :=
  ∀ f, a.tail.inFlight = some f →
    ∃ e, a.entries.getLast? = some e
      ∧ f.range = e.range
      ∧ Directive.Fits (e.order.map (·.directive))
      ∧ f.range = nextRange a.tail.snapshot (e.order.map (·.directive)) a.tail.config.chunkSize

theorem IsCurrent.after_sent {now : Nat} (hbalanced : a.IsBalanced) (hfits : a.tail.Fits)
    (hm : m.Fits) (hsends : (a.tail.after now m).Sends now (a.tail.waits m))
    (hanswer : a.tail.isFetching → m.isAnswer)
    : (a.after now m).IsCurrent := by
  intro f hf
  have hinFlight := hsends.inFlight
  obtain rfl := Option.some.inj (hinFlight.symm.trans hf)
  have hdirective := waits_directive (m := m) hbalanced.waiting
  refine ⟨⟨_, a.waits m⟩, ?_, rfl, ?_, ?_⟩
  . unfold Account.after
    rw [Tail.request?_of_sends hsends hanswer]
    simp
  . rw [hdirective]
    exact hfits.waits hm
  . rw [hdirective]
    rfl

/-- Nothing is read while a request is on its way, so it stays the one that is called for. -/
theorem IsCurrent.after_waiting {now : Nat} (h : a.IsCurrent)
    (hwaiting : (a.tail.after now m).isFetching → a.tail.isFetching ∧ ¬ m.isAnswer)
    : (a.after now m).IsCurrent := by
  intro g hg
  have hnow : (a.tail.after now m).isFetching := Option.isSome_iff_exists.mpr ⟨g, hg⟩
  obtain ⟨hbefore, hm⟩ := hwaiting hnow
  obtain ⟨f, hf, hrange⟩ := Tail.inFlight_before hm hbefore hg
  obtain ⟨e, hlast, heq, hfits, hcalled⟩ := h f hf
  refine ⟨e, ?_, hrange.trans heq, hfits, ?_⟩
  . unfold Account.after
    rw [Tail.request?_of_waiting hwaiting]
    simpa using hlast
  . rcases a.tail.after_snapshot now m with ⟨follow, hsnapshot⟩ | ⟨_, answer, rfl, _⟩
    . unfold Account.after
      rw [hrange, hsnapshot, Tail.after_config]
      exact hcalled
    . simp [Tail.Move.isAnswer] at hm

theorem IsCurrent.after (h : a.IsCurrent) (hbalanced : a.IsBalanced) (hfits : a.tail.Fits) (now : Nat)
    (hm : m.Fits)
    : (a.after now m).IsCurrent := by
  cases a.tail.after_dispatch now m with
  | sent hsends hanswer => exact after_sent hbalanced hfits hm hsends hanswer
  | waiting _ hwaiting => exact h.after_waiting hwaiting

theorem isCurrent_of_run (hbalanced : a.IsBalanced) (hfits : a.tail.Fits) (h : a.IsCurrent)
    (hrun : Run (·.Fits) a b)
    : b.tail.Fits ∧ b.IsCurrent ∧ b.tail.config = a.tail.config := by
  induction hrun with
  | refl => exact ⟨hfits, h, rfl⟩
  | next now m hrun hm _ ih =>
    refine ⟨ih.1.after now hm, ?_, (Tail.after_config _ now m).trans ih.2.2⟩
    exact ih.2.1.after (isBalanced_of_run hbalanced hrun) ih.1 now hm

/--
A range that is asked for next is not the wrong way round, no longer than two chunks and within what
64 bits hold. The bytes before a window are asked for without any that it holds, what follows it from
its last byte on, and where a sum would pass the largest position, that position takes its place. All
this holds for the request that a tail has on its way, whatever happened to the tail before.
-/
theorem requests_sound {chunkSize : Nat} (hchunk : 0 < chunkSize)
    : (∀ (s : Snapshot) (directive : Option Directive), s.Fits → Directive.Fits directive →
          (nextRange s directive chunkSize).IsSound s directive chunkSize)
        ∧
      ∀ (t : Tail) (a : Account), t.Prepared → t.config.chunkSize = chunkSize →
        Directive.Fits t.pending → Run (·.Fits) (ofTail t) a →
          ∀ f, a.tail.inFlight = some f →
            ∃ e, a.entries.getLast? = some e
              ∧ f.range = e.range
              ∧ f.range.IsSound a.tail.snapshot (e.order.map (·.directive)) chunkSize := by
  constructor
  . intro s directive hs hd
    exact nextRange_isSound hchunk hs hd
  . rintro t a ht rfl hpending hrun f hf
    have hbegin : (ofTail t).IsCurrent := by
      intro f hf
      have : t.inFlight = some f := hf
      simp [ht.inFlight_eq] at this
    obtain ⟨hfits, hcurrent, hconfig⟩ :=
      isCurrent_of_run (isBalanced_ofTail t) (ht.fits hpending) hbegin hrun
    obtain ⟨e, hlast, heq, hd, hrange⟩ := hcurrent f hf
    refine ⟨e, hlast, heq, ?_⟩
    rw [hrange, hconfig]
    exact nextRange_isSound hchunk hfits.snapshot hd

/-- The two bytes at the end of the positions are asked for, and a gap in front of a window. -/
theorem requests_sound_gap
    : let t := Tail.ofConfig { chunkSize := 2 } "log"
      let a := (((ofTail t).after 0 .launch).after 1
        (.event (.fetched (.ok ⟨4, [100, 101], 6⟩)))).after 2 (.command (.jumpTo 3))
      nextRange {} (some (.jump (maxOffset - 1))) 2 = .span (maxOffset - 1) maxOffset
        ∧ Run (·.Fits) (ofTail t) a
        ∧ a.tail.inFlight = some { range := .span 3 3, started := 2 }
        ∧ a.entries.getLast? = some ⟨.span 3 3, some ⟨1, .jump 3⟩⟩
        ∧ a.tail.snapshot.byteAt 3 = none := by
  intro t a
  have hchunk : (⟨4, [100, 101], 6⟩ : Chunk).stop ≤ maxOffset ∧ 6 ≤ maxOffset := by decide
  have hjump : 3 ≤ maxOffset := by decide
  have hrefl : Run (·.Fits) (ofTail t) (ofTail t) := .refl
  have hrun : Run (·.Fits) (ofTail t) a := hrefl
    |>.next 0 .launch trivial trivial
    |>.next 1 (.event (.fetched (.ok ⟨4, [100, 101], 6⟩))) hchunk rfl
    |>.next 2 (.command (.jumpTo 3)) hjump trivial
  have hinFlight : a.tail.inFlight = some { range := .span 3 3, started := 2 } := rfl
  have hlast : a.entries.getLast? = some ⟨.span 3 3, some ⟨1, .jump 3⟩⟩ := rfl
  obtain ⟨hnext, hcurrent⟩ := @requests_sound 2 (by decide)
  have hend := hnext {} (some (.jump (maxOffset - 1))) (Snapshot.fits_of_unloaded rfl)
    (by rintro d ⟨⟩; decide)
  obtain ⟨e, he, _, hsound⟩ := hcurrent t a (.ofConfig _ _) rfl nofun hrun _ hinFlight
  obtain rfl := Option.some.inj (hlast.symm.trans he)
  obtain ⟨last, hgap, _, hfree⟩ := hsound.jump 3 4 rfl rfl (by decide)
  obtain ⟨_, rfl⟩ := ByteRange.span.inj hgap
  exact ⟨hend.clamped, hrun, hinFlight, hlast, hfree 3 (Nat.le_refl 3) (Nat.le_refl 3)⟩

end Account
end RangeTail
