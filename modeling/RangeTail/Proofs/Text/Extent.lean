import Mathlib.Data.Nat.Find
import Mathlib.Order.Bounds.Defs
import RangeTail.Proofs.Text.Decoding
import RangeTail.Proofs.Text.View

/-!
This module contains which part of a window its text is, for a window of any bytes, and which part
of the file it is for a window of a UTF-8 file: from the first full line, or else the first full
character, up to the last character that the window holds all of.
-/

namespace RangeTail

open Text.Utf8 (IsBoundary IsCut encode fitting isContinuation size)

namespace Text.Utf8

variable {file : List Char} {start n : Nat}

/-- The characters that fit are all of those that end in the first `n` bytes. -/
theorem isGreatest_fitting (n : Nat) (file : List Char)
    : IsGreatest {k | k ≤ n ∧ IsBoundary file k} (size (fitting n file)) := by
  constructor
  . exact ⟨size_fitting_le n file, fitting n file, fitting_prefix n file, rfl⟩
  . rintro k ⟨hle, before, ⟨after, rfl⟩, rfl⟩
    rw [fitting_append after hle, size_append]
    apply Nat.le_add_right

theorem exists_isLeast_boundary (h : start ≤ size file)
    : ∃ k, IsLeast {k | start ≤ k ∧ IsBoundary file k} k := by
  classical
  obtain ⟨j, _, hboundary⟩ := exists_isBoundary_add h
  have hsome : ∃ k, start ≤ k ∧ IsBoundary file k := ⟨_, Nat.le_add_right start j, hboundary⟩
  exact ⟨Nat.find hsome, Nat.find_spec hsome, fun _ hk => Nat.find_min' hsome hk⟩

end Text.Utf8

namespace TextView

/-- Where the text of the bytes from `start` on begins, and what it is. -/
structure IsOf (v : TextView) (start : Nat) (bytes : List UInt8) : Prop where
  start_le : start ≤ v.offset
  le_stop : v.offset ≤ start + bytes.length
  of_zero : start = 0 → v.offset = 0
  /-- It begins behind the first line feed. -/
  of_lineFeed : start ≠ 0 → 0x0A ∈ bytes →
    ∃ i, IsLeast {i | bytes[i]? = some 0x0A} i ∧ v.offset = start + i + 1
  of_no_lineFeed : start ≠ 0 → 0x0A ∉ bytes → v.offset - start ≤ 3
  /-- It is all there is from there on, but for a character that is cut off by the end. -/
  text_eq_some_iff : ∀ text, v.text = some text ↔
    ∃ tail, IsCut tail ∧ tail.length ≤ 3
      ∧ bytes.drop (v.offset - start) = encode text.toList ++ tail

theorem isOf_ofWindow (start : Nat) (bytes : List UInt8)
    : (ofWindow start bytes).IsOf start bytes where
  start_le := Nat.le_add_right _ _
  le_stop := Nat.add_le_add_left (skipped_le_length start bytes) start
  of_zero := by
    rintro rfl
    rw [ofWindow, skipped_zero]
  of_lineFeed := by
    intro hstart hmem
    obtain ⟨i, hskipped, hbyte, hfirst⟩ := skipped_of_mem hstart hmem
    refine ⟨i, ⟨hbyte, fun j hj => hfirst j hj⟩, ?_⟩
    rw [ofWindow, hskipped, Nat.add_assoc]
  of_no_lineFeed := by
    intro hstart hmem
    rw [ofWindow, Nat.add_sub_cancel_left, skipped_of_not_mem hstart hmem]
    apply leadingContinuation_le_three
  text_eq_some_iff := by
    intro text
    rw [ofWindow, Nat.add_sub_cancel_left, Option.map_eq_some_iff]
    constructor
    . rintro ⟨cs, hdecode, rfl⟩
      obtain ⟨tail, hcut, hbytes⟩ := Text.Utf8.decodeOpen_eq_some_iff.mp hdecode
      rw [String.toList_ofList]
      exact ⟨tail, hcut, hcut.length_le_three, hbytes⟩
    . rintro ⟨tail, hcut, _, hbytes⟩
      have hdecode := Text.Utf8.decodeOpen_eq_some_iff.mpr ⟨tail, hcut, hbytes⟩
      exact ⟨text.toList, hdecode, String.ofList_toList⟩

variable {log : MemoryLog} {file : List Char} {start stop k : Nat}

/-- What is left out at the front of a window without a line feed belongs to one character. -/
theorem not_isBoundary_of_lt_offset (hfile : log.bytes <+: encode file) (hzero : start ≠ 0)
    (hlf : 0x0A ∉ log.window start stop) (hstart : start ≤ stop) (hstop : stop ≤ log.size)
    (hk : start ≤ k) (hlt : k < (ofWindow start (log.window start stop)).offset)
    : ¬ IsBoundary file k := by
  intro hboundary
  obtain ⟨i, rfl⟩ := Nat.exists_eq_add_of_le hk
  have hin : start + i < stop := Nat.lt_of_lt_of_le hlt (offset_bounds hstart hstop).2
  have hlog := List.getElem?_eq_getElem (Nat.lt_of_lt_of_le hin hstop)
  have hfirst := hboundary.isContinuation_eq_false (getElem?_encode hfile hlog)
  rw [ofWindow_window, skipped_of_not_mem hzero hlf] at hlt
  rw [← MemoryLog.getElem?_window log hin] at hlog
  rw [isContinuation_of_lt (Nat.lt_of_add_lt_add_left hlt) hlog] at hfirst
  contradiction

theorem exists_isLeast_of_not_mem (hfile : log.bytes <+: encode file) (hzero : start ≠ 0)
    (hlf : 0x0A ∉ log.window start stop) (hstart : start ≤ stop) (hstop : stop ≤ log.size)
    : ∃ k, IsLeast {k | start ≤ k ∧ IsBoundary file k} k
        ∧ (ofWindow start (log.window start stop)).offset = min stop k := by
  have hbounds := offset_bounds hstart hstop
  have hinside (k : Nat) (hk : start ≤ k ∧ IsBoundary file k)
      : (ofWindow start (log.window start stop)).offset ≤ k := by
    apply Nat.le_of_not_lt
    intro hlt
    exact not_isBoundary_of_lt_offset hfile hzero hlf hstart hstop hk.1 hlt hk.2
  cases isBoundary_or_eq hfile hstart hstop with
  | inl hboundary =>
    refine ⟨_, ⟨⟨hbounds.1, hboundary⟩, hinside⟩, ?_⟩
    rw [Nat.min_eq_right hbounds.2]
  | inr heq =>
    -- the window ends inside the character that it begins in
    have hsize := Nat.le_trans hstop (size_le hfile)
    obtain ⟨k, hk⟩ := Text.Utf8.exists_isLeast_boundary (Nat.le_trans hstart hsize)
    refine ⟨k, hk, ?_⟩
    rw [heq, Nat.min_eq_left (heq ▸ hinside k hk.1)]

theorem exists_text_extent (hfile : log.bytes <+: encode file) (hstart : start ≤ stop)
    (hstop : stop ≤ log.size)
    : ∃ first last text, ofWindow start (log.window start stop) = ⟨first, some (String.ofList text)⟩
        ∧ encode text = log.window first last
        ∧ first ≤ last
        ∧ last ≤ stop
        ∧ (IsBoundary file first → IsGreatest {k | k ≤ stop ∧ IsBoundary file k} last)
        ∧ (¬ IsBoundary file first → last = first) := by
  by_cases hboundary : IsBoundary file (ofWindow start (log.window start stop)).offset
  . obtain ⟨before, text, hview, happend⟩ := text_of_isBoundary hfile hstart hstop hboundary
    have hlast := Text.Utf8.isGreatest_fitting stop file
    rw [← happend, Text.Utf8.size_append] at hlast
    have hle : size before + size text ≤ stop := hlast.1.1
    have hprefix : before ++ text <+: file := happend ▸ Text.Utf8.fitting_prefix stop file
    rw [hview] at hboundary
    refine ⟨_, size before + size text, text, hview, ?_, Nat.le_add_right _ _, hle,
      fun _ => hlast, fun h => absurd hboundary h⟩
    exact (window_encode hfile hprefix (Nat.le_trans hle hstop)).symm
  . obtain ⟨first, text, hview, hle, hwindow⟩ := exists_text hfile hstart hstop
    have heq := (isBoundary_or_eq hfile hstart hstop).resolve_left hboundary
    rw [hview] at hboundary heq
    dsimp only at hboundary heq
    have hnil : size text = 0 := by omega
    rw [hnil] at hwindow
    refine ⟨first, first, text, hview, hwindow.symm, Nat.le_refl _, Nat.le_of_eq heq,
      fun h => absurd h hboundary, fun _ => rfl⟩

/--
Every window of a UTF-8 file has a text, and it is a part of the file. It begins with the file, or
behind the first line feed of the window, or else where the first character begins that begins in
it. It ends with the last character that ends in the window, and is empty if it does not begin with
a character.
-/
theorem ofWindow_encode {file : List Char} {start stop : Nat} (hstart : start ≤ stop)
    (hstop : stop ≤ size file)
    : let window := MemoryLog.window ⟨encode file⟩
      let view := ofWindow start (window start stop)
      ∃ first last text,
        view = ⟨first, some (String.ofList text)⟩
          ∧ view.isBroken = false
          ∧ encode text = window first last
          ∧ first ≤ last
          ∧ last ≤ stop
          ∧ (start = 0 → first = 0)
          ∧ (start ≠ 0 → 0x0A ∈ window start stop →
              ∃ i, IsLeast {i | (window start stop)[i]? = some 0x0A} i ∧ first = start + i + 1)
          ∧ (start ≠ 0 → 0x0A ∉ window start stop →
              ∃ k, IsLeast {k | start ≤ k ∧ IsBoundary file k} k ∧ first = min stop k)
          ∧ (IsBoundary file first → IsGreatest {k | k ≤ stop ∧ IsBoundary file k} last)
          ∧ (¬ IsBoundary file first → last = first) := by
  intro window view
  have hsize : stop ≤ MemoryLog.size ⟨encode file⟩ := by
    rw [Text.Utf8.size_eq_length] at hstop
    exact hstop
  have hfile : (⟨encode file⟩ : MemoryLog).bytes <+: encode file := List.prefix_rfl
  obtain ⟨first, last, text, hview, htext, hle, hlast, hboundary, hnone⟩ :=
    exists_text_extent hfile hstart hsize
  have hof := isOf_ofWindow start (window start stop)
  rw [show ofWindow start (window start stop) = _ from hview] at hof
  refine ⟨first, last, text, hview, ?_, htext, hle, hlast, hof.of_zero, hof.of_lineFeed, ?_,
    hboundary, hnone⟩
  . rw [show view = _ from hview]
    rfl
  . intro hzero hlf
    have := exists_isLeast_of_not_mem hfile hzero hlf hstart hsize
    rw [hview] at this
    exact this

/-- A window in the middle of a character of four bytes has an empty text, which stands where the
window ends. -/
theorem ofWindow_encode_middle
    : let file := ['a', '😀', 'b']
      2 ≤ 4 ∧ 4 ≤ size file ∧ ofWindow 2 [0x9F, 0x98] = ⟨4, some ""⟩ := by
  intro file
  have hsize : 4 ≤ size file := by decide
  refine ⟨by decide, hsize, ?_⟩
  obtain ⟨first, last, text, hview, _, htext, _, _, _, _, _, _, hlast⟩ :=
    @ofWindow_encode file 2 4 (by decide) hsize
  obtain rfl : 4 = first := congrArg TextView.offset hview
  have hboundary : ¬ IsBoundary file 4 := by
    intro h
    have : isContinuation 0x80 = false := h.isContinuation_eq_false rfl
    contradiction
  rw [hlast hboundary] at htext
  have hnil : text = [] := by
    apply Text.Utf8.eq_nil_of_size_eq_zero
    rw [Text.Utf8.size_eq_length, htext]
    rfl
  rw [hnil] at hview
  exact hview

end TextView
end RangeTail
