import RangeTail.Proofs.Output.Run

/-!
This module contains what is printed of a log that has taken the place of another one. The cursor
is a position in the old log, and no snapshot in between takes it back: the text of the new log is
printed from there on if it reaches that far.
-/

namespace RangeTail

open Text.Utf8 (dropBytes encode size)

namespace Cursor

/-- What the cursor becomes when it is shown the snapshots, one after the other. -/
def seeAll (c : Cursor) : List Snapshot → Cursor
  | [] => c
  | s :: rest => (c.advance s).2.seeAll rest

variable {c : Cursor} {s t : Snapshot} {start stop : Nat} {text : List Char}

theorem seeAll_append (c : Cursor) (old new : List Snapshot)
    : c.seeAll (old ++ new) = (c.seeAll old).seeAll new := by
  induction old generalizing c with
  | nil => rfl
  | cons s old ih => exact ih (c.advance s).2

theorem advance_of_text_eq_none (h : s.text = none) : c.advance s = ("", c) := by
  unfold advance
  rw [h]
  cases s.textOffset with
  | none => rfl
  | some start => rfl

theorem seeAll_of_text_eq_none {quiet : List Snapshot} (h : ∀ q ∈ quiet, q.text = none)
    : c.seeAll quiet = c := by
  induction quiet with
  | nil => rfl
  | cons q quiet ih =>
    rw [List.forall_mem_cons] at h
    rw [seeAll, advance_of_text_eq_none h.1]
    exact ih h.2

theorem advance_of_isWithin (h : s.Shows start text) (hc : c.IsWithin start text)
    : ∃ rest, (c.advance s).1 = String.ofList rest ∧ size rest < size text := by
  obtain ⟨printed, hprinted, hlt, hle⟩ := hc
  refine ⟨(dropBytes (printed - start) text).getD [], ?_, ?_⟩
  . have hbounds : start ≤ printed ∧ printed ≤ start + size text := by omega
    unfold advance
    rw [h.textOffset, h.text, hprinted]
    dsimp only
    rw [String.toList_ofList, if_pos hbounds]
  . -- a cursor inside a character lets nothing be printed at all
    cases hdrop : dropBytes (printed - start) text with
    | none =>
      rw [Option.getD_none, Text.Utf8.size_nil]
      omega
    | some rest =>
      rw [Option.getD_some, Text.Utf8.size_of_dropBytes hdrop]
      omega

/--
A log has taken the place of the one that was printed before, and the window was given up in
between. The whole text of the next window is printed, unless the place where the printing of the
old log ended lies in it.
-/
theorem prints_replaced_iff {log : MemoryLog} {quiet : List Snapshot} (c : Cursor)
    (old : List Snapshot) (s : Snapshot) (total : Nat) (hutf8 : log.IsUtf8)
    (hwindow : t.Holds log start stop) (hdecoded : t.IsDecoded)
    (hquiet : ∀ q ∈ quiet, q.text = none)
    : ∃ first text, t.Shows first text
        ∧ encode text = log.window first (first + size text)
        ∧ (((c.seeAll (old ++ s.emptied total :: quiet)).advance t).1 = String.ofList text
            ↔
          ¬ (c.seeAll old).IsWithin first text) := by
  obtain ⟨file, hfile⟩ := hutf8
  obtain ⟨text, hshows, _, htext⟩ := (Snapshot.Reads.mk hwindow hdecoded).shows hfile
  have hcursor : c.seeAll (old ++ s.emptied total :: quiet) = c.seeAll old := by
    rw [seeAll_append]
    apply seeAll_of_text_eq_none
    rw [List.forall_mem_cons]
    exact ⟨rfl, hquiet⟩
  rw [hcursor]
  refine ⟨_, text, hshows, htext, ?_⟩
  constructor
  . intro hprinted hwithin
    obtain ⟨rest, hrest, hlt⟩ := advance_of_isWithin hshows hwithin
    rw [hrest] at hprinted
    rw [String.ofList_injective hprinted] at hlt
    exact Nat.lt_irrefl _ hlt
  . intro hwithin
    rw [advance_of_not_isWithin hshows hwithin]

/-- A log is replaced by a shorter one, which is printed in full. -/
theorem prints_replaced_by_shorter
    : let s := Snapshot.initial.merge ⟨0, [97, 98, 99, 10], 4⟩
      let t := (s.emptied 0).merge ⟨0, [120, 10], 2⟩
      ((({} : Cursor).seeAll [s, s.emptied 0, (s.emptied 0).withFollow true]).advance t).1
        =
      "x\n" := by
  intro s t
  let log : MemoryLog := ⟨[120, 10]⟩
  have hutf8 : log.IsUtf8 := ⟨['x', '\n'], by decide⟩
  have hwindow : t.Holds log 0 2 := ⟨rfl, rfl, by decide, by decide⟩
  have hquiet : ∀ q ∈ [(s.emptied 0).withFollow true], q.text = none := by
    rw [List.forall_mem_singleton]
    rfl
  obtain ⟨first, text, hshows, _, hiff⟩ := prints_replaced_iff {} [s] s 0 hutf8 hwindow
    (Snapshot.isDecoded_merge _ _) hquiet
  obtain ⟨rfl, rfl⟩ : first = 0 ∧ text = ['x', '\n'] := by
    have hview : t.Shows 0 ['x', '\n'] := ⟨by decide +kernel, by decide +kernel⟩
    exact hshows.eq hview
  have hend : (({} : Cursor).seeAll [s]).printed = some 4 := by decide +kernel
  apply hiff.mpr
  rintro ⟨printed, hprinted, _, hle⟩
  rw [hend, Option.some.injEq] at hprinted
  subst hprinted
  contradiction

/-- The log that has taken the place of another one is not always printed in full: where the old one
was printed up to a place inside the new one, only the end of that is printed. -/
theorem replaced_by_longer_skips_beginning
    : ¬ ∀ (c : Cursor) (old quiet : List Snapshot) (s t : Snapshot) (total start stop : Nat)
          (log : MemoryLog),
        log.IsUtf8 → t.Holds log start stop → t.IsDecoded → (∀ q ∈ quiet, q.text = none) →
          ∀ text, t.text = some text →
            ((c.seeAll (old ++ s.emptied total :: quiet)).advance t).1 = text := by
  intro h
  let s := Snapshot.initial.merge ⟨0, [97, 98, 99, 10], 4⟩
  let t := (s.emptied 0).merge ⟨0, [120, 121, 122, 119, 49, 50, 10], 7⟩
  have hprinted := h {} [s] [] s t 0 0 7 ⟨[120, 121, 122, 119, 49, 50, 10]⟩
    ⟨['x', 'y', 'z', 'w', '1', '2', '\n'], by decide⟩ ⟨rfl, rfl, by decide, by decide⟩
    (Snapshot.isDecoded_merge _ _) (List.forall_mem_nil _) "xyzw12\n" (by decide +kernel)
  have hshown : ((({} : Cursor).seeAll [s, s.emptied 0]).advance t).1 = "12\n" := by
    decide +kernel
  have hne : "12\n" ≠ "xyzw12\n" := by decide
  exact hne (hshown.symm.trans hprinted)

end Cursor
end RangeTail
