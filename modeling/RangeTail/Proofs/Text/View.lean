import RangeTail.Proofs.Text.Boundary
import RangeTail.TextView

/-!
This module contains the theory of the text of a window: where it begins, and that a window of a
UTF-8 file always has one, wherever the window was cut.
-/

namespace RangeTail

open Text.Utf8 (IsBoundary encode fitting isContinuation size)

section

variable {offset i : Nat} {bytes : List UInt8} {b : UInt8}

theorem lineStart_of_not_mem (h : 0x0A ∉ bytes) : lineStart offset bytes = 0 := by
  have : bytes.findIdx? (· == 0x0A) = none := by
    rw [List.findIdx?_eq_none_iff]
    intro b hb
    rw [beq_eq_false_iff_ne]
    intro heq
    exact h (heq ▸ hb)
  unfold lineStart
  rw [this, ite_self]

theorem lineStart_of_mem (hoffset : offset ≠ 0) (h : 0x0A ∈ bytes)
    : ∃ i, lineStart offset bytes = i + 1 ∧ bytes[i]? = some 0x0A
        ∧ ∀ j, bytes[j]? = some 0x0A → i ≤ j := by
  have hsome := List.findIdx?_eq_some_of_exists (p := (· == 0x0A)) ⟨_, h, beq_self_eq_true _⟩
  refine ⟨bytes.findIdx (· == 0x0A), ?_, ?_⟩
  . unfold lineStart
    rw [if_neg hoffset, hsome]
  . rw [List.findIdx?_eq_some_iff_getElem] at hsome
    obtain ⟨hlt, hlf, hfirst⟩ := hsome
    constructor
    . rw [List.getElem?_eq_getElem hlt, eq_of_beq hlf]
    . intro j hj
      obtain ⟨_, hbyte⟩ := List.getElem?_eq_some_iff.mp hj
      apply Nat.le_of_not_lt
      intro hlt
      have := hfirst j hlt
      rw [hbyte, beq_self_eq_true] at this
      contradiction

theorem leadingContinuation_le_three (bytes : List UInt8) : leadingContinuation bytes ≤ 3 := by
  have h₁ := (List.takeWhile_prefix isContinuation (l := bytes.take 3)).length_le
  have h₂ := List.length_take_le 3 bytes
  exact Nat.le_trans h₁ h₂

theorem leadingContinuation_le_length (bytes : List UInt8)
    : leadingContinuation bytes ≤ bytes.length := by
  have h₁ := (List.takeWhile_prefix isContinuation (l := bytes.take 3)).length_le
  have h₂ := List.length_take_le' 3 bytes
  exact Nat.le_trans h₁ h₂

theorem isContinuation_of_lt (h : i < leadingContinuation bytes) (hb : bytes[i]? = some b)
    : isContinuation b = true := by
  have hpre := List.takeWhile_prefix isContinuation (l := bytes.take 3)
  have hmem := List.getElem_mem h
  have hle := leadingContinuation_le_three bytes
  rw [hpre.getElem h, List.getElem_take] at hmem
  obtain ⟨hi, rfl⟩ := List.getElem?_eq_some_iff.mp hb
  exact List.all_eq_true.mp List.all_takeWhile _ hmem

theorem isContinuation_leading (h₃ : leadingContinuation bytes < 3)
    (hb : bytes[leadingContinuation bytes]? = some b)
    : isContinuation b = false := by
  have hnot := List.head?_dropWhile_not isContinuation (bytes.take 3)
  have hsplit := List.takeWhile_append_dropWhile (p := isContinuation) (l := bytes.take 3)
  have hget : (bytes.take 3)[leadingContinuation bytes]? = some b := by
    rw [List.getElem?_take_of_lt h₃, hb]
  rw [← hsplit] at hget
  unfold leadingContinuation at hget
  rw [List.getElem?_append_right (Nat.le_refl _), Nat.sub_self, ← List.head?_eq_getElem?] at hget
  rw [hget] at hnot
  simpa using hnot

theorem leadingContinuation_append (bytes more : List UInt8)
    : leadingContinuation (bytes ++ more) = leadingContinuation bytes
        ∨
      leadingContinuation bytes = bytes.length
        ∧ leadingContinuation bytes < leadingContinuation (bytes ++ more) := by
  unfold leadingContinuation
  rw [List.take_append, List.takeWhile_append]
  split
  . next hall =>
    rw [List.length_append, hall, List.length_take]
    have htake := List.length_take_le (3 - bytes.length) more
    have hmore := (List.takeWhile_prefix isContinuation
      (l := more.take (3 - bytes.length))).length_le
    omega
  . exact .inl rfl

@[simp] theorem skipped_zero (bytes : List UInt8) : skipped 0 bytes = 0 :=
  rfl

theorem skipped_of_mem (hoffset : offset ≠ 0) (h : 0x0A ∈ bytes)
    : ∃ i, skipped offset bytes = i + 1 ∧ bytes[i]? = some 0x0A
        ∧ ∀ j, bytes[j]? = some 0x0A → i ≤ j := by
  obtain ⟨i, hstart, hfirst⟩ := lineStart_of_mem hoffset h
  refine ⟨i, ?_, hfirst⟩
  unfold skipped
  rw [hstart, if_neg (by omega)]

theorem skipped_of_not_mem (hoffset : offset ≠ 0) (h : 0x0A ∉ bytes)
    : skipped offset bytes = leadingContinuation bytes := by
  unfold skipped
  rw [lineStart_of_not_mem h, if_pos ⟨rfl, hoffset⟩]

theorem skipped_le_length (offset : Nat) (bytes : List UInt8)
    : skipped offset bytes ≤ bytes.length := by
  by_cases hoffset : offset = 0
  . rw [hoffset, skipped_zero]
    apply Nat.zero_le
  by_cases h : 0x0A ∈ bytes
  . obtain ⟨i, hskipped, hbyte, _⟩ := skipped_of_mem hoffset h
    obtain ⟨hi, _⟩ := List.getElem?_eq_some_iff.mp hbyte
    rw [hskipped]
    exact hi
  . rw [skipped_of_not_mem hoffset h]
    apply leadingContinuation_le_length

end

/-- What the log holds is the beginning of a text, and may end inside a character of it. -/
def MemoryLog.IsUtf8 (log : MemoryLog) : Prop :=
  ∃ file, log.bytes <+: encode file

namespace TextView

variable {log : MemoryLog} {file before text : List Char} {start stop i : Nat} {b : UInt8}

theorem size_le (hfile : log.bytes <+: encode file) : log.size ≤ size file := by
  rw [Text.Utf8.size_eq_length]
  exact hfile.length_le

theorem getElem?_encode (hfile : log.bytes <+: encode file) (h : log.bytes[i]? = some b)
    : (encode file)[i]? = some b := by
  obtain ⟨more, hmore⟩ := hfile
  obtain ⟨hi, _⟩ := List.getElem?_eq_some_iff.mp h
  rw [← hmore, List.getElem?_append_left hi, h]

theorem window_eq (hfile : log.bytes <+: encode file) (hstop : stop ≤ log.size)
    : log.window start stop = ((encode file).drop start).take (stop - start) :=
  (@MemoryLog.window_of_prefix log ⟨encode file⟩ hfile start stop hstop).symm

theorem window_encode (hfile : log.bytes <+: encode file) (htext : before ++ text <+: file)
    (hsize : size before + size text ≤ log.size)
    : log.window (size before) (size before + size text) = encode text := by
  obtain ⟨after, rfl⟩ := htext
  rw [window_eq hfile hsize, Nat.add_sub_cancel_left, List.append_assoc]
  rw [Text.Utf8.encode_append, Text.Utf8.encode_append]
  rw [Text.Utf8.size_eq_length, Text.Utf8.size_eq_length, List.drop_left, List.take_left]

theorem decodeOpen_window (hfile : log.bytes <+: encode file) (hbefore : before <+: file)
    (hstart : size before ≤ stop) (hstop : stop ≤ log.size)
    : ∃ text, Text.Utf8.decodeOpen (log.window (size before) stop) = some text
        ∧ before ++ text = fitting stop file := by
  obtain ⟨after, rfl⟩ := hbefore
  refine ⟨fitting (stop - size before) after, ?_, ?_⟩
  . rw [window_eq hfile hstop, Text.Utf8.encode_append]
    rw [Text.Utf8.size_eq_length, List.drop_left]
    apply Text.Utf8.decodeOpen_take_encode
  . rw [Text.Utf8.fitting_append after hstart]

theorem ofWindow_window (log : MemoryLog) (start stop : Nat)
    : ofWindow start (log.window start stop)
        =
      { offset := start + skipped start (log.window start stop)
        text := (Text.Utf8.decodeOpen (log.window
          (start + skipped start (log.window start stop)) stop)).map String.ofList } := by
  unfold ofWindow
  rw [MemoryLog.drop_window]

theorem isBoundary_of_line (hfile : log.bytes <+: encode file)
    (hline : start = 0 ∨ 0x0A ∈ log.window start stop)
    : IsBoundary file (ofWindow start (log.window start stop)).offset := by
  rw [ofWindow_window]
  by_cases hzero : start = 0
  . subst start
    rw [skipped_zero]
    apply Text.Utf8.isBoundary_zero
  . obtain ⟨i, hskipped, hbyte, _⟩ := skipped_of_mem hzero (hline.resolve_left hzero)
    have hlf := getElem?_encode hfile (MemoryLog.getElem?_of_window hbyte).1
    rw [hskipped, ← Nat.add_assoc]
    exact Text.Utf8.isBoundary_of_lineFeed hlf

theorem offset_bounds (hstart : start ≤ stop) (hstop : stop ≤ log.size)
    : start ≤ (ofWindow start (log.window start stop)).offset
        ∧ (ofWindow start (log.window start stop)).offset ≤ stop := by
  have hle := skipped_le_length start (log.window start stop)
  rw [MemoryLog.length_window hstop] at hle
  rw [ofWindow_window]
  dsimp only
  omega

/-- The text of a window begins with a character, unless the window is too short to hold the end of
the one that it begins in. -/
theorem isBoundary_or_eq (hfile : log.bytes <+: encode file) (hstart : start ≤ stop)
    (hstop : stop ≤ log.size)
    : IsBoundary file (ofWindow start (log.window start stop)).offset
        ∨ (ofWindow start (log.window start stop)).offset = stop := by
  by_cases hline : start = 0 ∨ 0x0A ∈ log.window start stop
  . exact .inl (isBoundary_of_line hfile hline)
  obtain ⟨hzero, hlf⟩ := not_or.mp hline
  have hle := (offset_bounds hstart hstop).2
  rw [ofWindow_window, skipped_of_not_mem hzero hlf] at *
  dsimp only at *
  rcases Nat.eq_or_lt_of_le hle with heq | hlt
  . exact .inr heq
  left
  obtain ⟨b, hb⟩ : ∃ b, log.bytes[start + leadingContinuation (log.window start stop)]? = some b :=
    ⟨_, List.getElem?_eq_getElem (Nat.lt_of_lt_of_le hlt hstop)⟩
  have hle₃ := leadingContinuation_le_three (log.window start stop)
  rcases Nat.eq_or_lt_of_le hle₃ with hthree | hlt₃
  . -- three bytes were left out, so that the character ends with them or has ended before
    have hsize := size_le hfile
    obtain ⟨j, hj, hboundary⟩ := Text.Utf8.exists_isBoundary_add (k := start) (s := file) (by omega)
    rcases Nat.eq_or_lt_of_le hj with rfl | hj₃
    . rw [hthree]
      exact hboundary
    . have hin : start + j < stop := by omega
      have hlog := List.getElem?_eq_getElem (Nat.lt_of_lt_of_le hin hstop)
      have hfalse := hboundary.isContinuation_eq_false (getElem?_encode hfile hlog)
      rw [← MemoryLog.getElem?_window log hin] at hlog
      rw [isContinuation_of_lt (by omega) hlog] at hfalse
      contradiction
  . rw [← MemoryLog.getElem?_window log hlt] at hb
    have hcont := isContinuation_leading hlt₃ hb
    have hbyte := getElem?_encode hfile (MemoryLog.getElem?_of_window hb).1
    exact Text.Utf8.isBoundary_of_getElem? hbyte hcont

theorem lineFeed_mem_of_wider {first last : Nat} (hfirst : first ≤ start) (hlast : stop ≤ last)
    (h : 0x0A ∈ log.window start stop)
    : 0x0A ∈ log.window first last := by
  obtain ⟨i, hi⟩ := List.mem_iff_getElem?.mp h
  obtain ⟨hlog, hlt⟩ := MemoryLog.getElem?_of_window hi
  have hwide : (log.window first last)[start + i - first]? = some 0x0A := by
    rw [MemoryLog.getElem?_window log (by omega), Nat.add_sub_cancel' (by omega), hlog]
  exact List.mem_of_getElem? hwide

theorem line_of_wider {first last : Nat} (hfirst : first ≤ start) (hlast : stop ≤ last)
    (hline : start = 0 ∨ 0x0A ∈ log.window start stop)
    : first = 0 ∨ 0x0A ∈ log.window first last := by
  cases hline with
  | inl hzero =>
    left
    omega
  | inr hlf =>
    right
    exact lineFeed_mem_of_wider hfirst hlast hlf

theorem offset_le_of_wider {first last : Nat} (hfirst : first ≤ start) (hlast : stop ≤ last)
    (hline : start = 0 ∨ 0x0A ∈ log.window start stop)
    : (ofWindow first (log.window first last)).offset
        ≤
      (ofWindow start (log.window start stop)).offset := by
  rw [ofWindow_window, ofWindow_window]
  dsimp only
  by_cases hzero : first = 0
  . rw [hzero, skipped_zero]
    apply Nat.zero_le
  have hne : start ≠ 0 := by omega
  obtain ⟨i, hskipped, hbyte, _⟩ := skipped_of_mem hne (hline.resolve_left hne)
  obtain ⟨hlog, hlt⟩ := MemoryLog.getElem?_of_window hbyte
  have hwide : (log.window first last)[start + i - first]? = some 0x0A := by
    rw [MemoryLog.getElem?_window log (by omega), Nat.add_sub_cancel' (by omega), hlog]
  obtain ⟨j, hskipped', _, hfirst'⟩ := skipped_of_mem hzero (List.mem_of_getElem? hwide)
  have := hfirst' _ hwide
  omega

section

variable {last : Nat}

theorem lt_offset_of_lineFeed (hzero : start ≠ 0) (hlf : 0x0A ∉ log.window start stop)
    (hmem : 0x0A ∈ log.window start last)
    : stop < (ofWindow start (log.window start last)).offset := by
  obtain ⟨i, hskipped, hbyte, _⟩ := skipped_of_mem hzero hmem
  have hlog := (MemoryLog.getElem?_of_window hbyte).1
  have hge : stop ≤ start + i := by
    apply Nat.le_of_not_lt
    intro hlt
    rw [← MemoryLog.getElem?_window log hlt] at hlog
    exact hlf (List.mem_of_getElem? hlog)
  rw [ofWindow_window, hskipped]
  dsimp only
  omega

/-- When a window grows at its end, its text goes on beginning where it began, or else it begins
behind all that the window held before. -/
theorem offset_grow (hstart : start ≤ stop) (hlast : stop ≤ last) (hsize : last ≤ log.size)
    : (ofWindow start (log.window start last)).offset
          = (ofWindow start (log.window start stop)).offset
        ∨
      stop < (ofWindow start (log.window start last)).offset := by
  by_cases hzero : start = 0
  . subst start
    exact .inl rfl
  by_cases hlf : 0x0A ∈ log.window start stop
  . -- both windows have the same first line feed
    left
    obtain ⟨i, hskipped, hbyte, hfirst⟩ := skipped_of_mem hzero hlf
    have hmem := lineFeed_mem_of_wider (Nat.le_refl start) hlast hlf
    obtain ⟨j, hskipped', hbyte', hfirst'⟩ := skipped_of_mem hzero hmem
    have ⟨hlog, hlt⟩ := MemoryLog.getElem?_of_window hbyte
    have hlog' := (MemoryLog.getElem?_of_window hbyte').1
    have hji : j ≤ i := by
      apply hfirst'
      rw [MemoryLog.getElem?_window log (by omega), hlog]
    have hij : i ≤ j := by
      apply hfirst
      rw [MemoryLog.getElem?_window log (by omega), hlog']
    rw [ofWindow_window, ofWindow_window, hskipped, hskipped', Nat.le_antisymm hij hji]
  by_cases hlf' : 0x0A ∈ log.window start last
  . right
    exact lt_offset_of_lineFeed hzero hlf hlf'
  . rw [ofWindow_window, ofWindow_window]
    rw [skipped_of_not_mem hzero hlf, skipped_of_not_mem hzero hlf']
    have happend := leadingContinuation_append (log.window start stop) (log.window stop last)
    rw [MemoryLog.window_append_window log hstart hlast] at happend
    rw [MemoryLog.length_window (Nat.le_trans hlast hsize)] at happend
    dsimp only
    omega

theorem offset_eq_iff (hzero : start ≠ 0) (hstart : start ≤ stop) (hlast : stop ≤ last)
    (hsize : last ≤ log.size) (hlf : 0x0A ∉ log.window start stop)
    : (ofWindow start (log.window start last)).offset
          = (ofWindow start (log.window start stop)).offset
        ↔
      0x0A ∉ log.window start last
        ∧ leadingContinuation (log.window start last)
            = leadingContinuation (log.window start stop) := by
  by_cases hmem : 0x0A ∈ log.window start last
  . have hlt := lt_offset_of_lineFeed hzero hlf hmem
    have hle := (offset_bounds hstart (Nat.le_trans hlast hsize)).2
    constructor
    . omega
    . exact fun h => absurd hmem h.1
  . rw [ofWindow_window, ofWindow_window]
    rw [skipped_of_not_mem hzero hlf, skipped_of_not_mem hzero hmem]
    dsimp only
    constructor
    . exact fun h => ⟨hmem, by omega⟩
    . intro h
      rw [h.2]

end

theorem text_of_isBoundary (hfile : log.bytes <+: encode file) (hstart : start ≤ stop)
    (hstop : stop ≤ log.size) (h : IsBoundary file (ofWindow start (log.window start stop)).offset)
    : ∃ before text,
        ofWindow start (log.window start stop) = ⟨size before, some (String.ofList text)⟩
          ∧ before ++ text = fitting stop file := by
  have hle := (offset_bounds hstart hstop).2
  obtain ⟨before, hbefore, hsize⟩ := h
  rw [← hsize] at hle
  obtain ⟨text, htext, happend⟩ := decodeOpen_window hfile hbefore hle hstop
  refine ⟨before, text, ?_, happend⟩
  rw [ofWindow_window] at hsize ⊢
  dsimp only at hsize
  rw [← hsize, htext, Option.map_some]

/-- Every window of a UTF-8 file has a text, wherever it was cut. -/
theorem exists_text (hfile : log.bytes <+: encode file) (hstart : start ≤ stop)
    (hstop : stop ≤ log.size)
    : ∃ first text, ofWindow start (log.window start stop) = ⟨first, some (String.ofList text)⟩
        ∧ first + size text ≤ stop
        ∧ log.window first (first + size text) = encode text := by
  cases isBoundary_or_eq hfile hstart hstop with
  | inl h =>
    obtain ⟨before, text, hview, happend⟩ := text_of_isBoundary hfile hstart hstop h
    have hle := Text.Utf8.size_fitting_le stop file
    rw [← happend, Text.Utf8.size_append] at hle
    refine ⟨size before, text, hview, hle, ?_⟩
    apply window_encode hfile
    . rw [happend]
      apply Text.Utf8.fitting_prefix
    . exact Nat.le_trans hle hstop
  | inr h =>
    refine ⟨stop, [], ?_, Nat.le_refl _, MemoryLog.window_eq_nil log (Nat.le_refl _)⟩
    rw [ofWindow_window] at h ⊢
    dsimp only at h
    rw [h, MemoryLog.window_eq_nil log (Nat.le_refl _), Text.Utf8.decodeOpen_nil]
    rfl

theorem exists_text_append {last : Nat} (hfile : log.bytes <+: encode file) (hstart : start ≤ stop)
    (hlast : stop ≤ last) (hsize : last ≤ log.size)
    (hoffset : (ofWindow start (log.window start last)).offset
      = (ofWindow start (log.window start stop)).offset)
    : ∃ first text more,
        ofWindow start (log.window start stop) = ⟨first, some (String.ofList text)⟩
          ∧ ofWindow start (log.window start last)
              = ⟨first, some (String.ofList (text ++ more))⟩ := by
  have hstop := Nat.le_trans hlast hsize
  cases isBoundary_or_eq hfile hstart hstop with
  | inl h =>
    obtain ⟨before, text, hview, happend⟩ := text_of_isBoundary hfile hstart hstop h
    rw [← hoffset] at h
    obtain ⟨before', text', hview', happend'⟩ :=
      text_of_isBoundary hfile (Nat.le_trans hstart hlast) hsize h
    rw [hview, hview'] at hoffset
    obtain rfl : before' = before := Text.Utf8.eq_of_size_eq
      (Text.Utf8.prefix_of_append_eq happend') (Text.Utf8.prefix_of_append_eq happend) hoffset
    obtain ⟨more, rfl, _⟩ := Text.Utf8.fitting_eq_append hlast happend happend'
    exact ⟨size before', text, more, hview, hview'⟩
  | inr h =>
    obtain ⟨first, text, hview, hle, _⟩ := exists_text hfile hstart hstop
    obtain ⟨first', text', hview', _, _⟩ := exists_text hfile (Nat.le_trans hstart hlast) hsize
    rw [hview] at h hoffset
    rw [hview'] at hoffset
    dsimp only at h hoffset
    have hnil : text = [] := Text.Utf8.eq_nil_of_size_eq_zero (by omega)
    refine ⟨first, [], text', ?_, ?_⟩
    . rw [hview, hnil]
    . rw [hview', hoffset, List.nil_append]

end TextView

end RangeTail
