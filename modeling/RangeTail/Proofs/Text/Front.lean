import RangeTail.Proofs.Text.Extent

/-!
This module contains what becomes of the text of a window of a UTF-8 file when the window grows at its
front: its text begins further in front, or where it began, and ends with the text of before.
-/

namespace RangeTail.TextView

open Text.Utf8 (IsBoundary encode fitting size)

variable {log : MemoryLog} {file : List Char} {first start stop : Nat}

theorem exists_lineFeed_in_front (hlf : 0x0A ∉ log.window start stop)
    (hmem : 0x0A ∈ log.window first stop)
    : ∃ i, first + i < start ∧ (log.window first stop)[i]? = some 0x0A := by
  obtain ⟨i, hi⟩ := List.mem_iff_getElem?.mp hmem
  obtain ⟨hlog, hlt⟩ := MemoryLog.getElem?_of_window hi
  refine ⟨i, ?_, hi⟩
  apply Nat.lt_of_not_le
  intro hle
  have hin : (log.window start stop)[first + i - start]? = some 0x0A := by
    rw [MemoryLog.getElem?_window log (by omega), Nat.add_sub_cancel' hle, hlog]
  exact hlf (List.mem_of_getElem? hin)

theorem offset_le_of_front (hfile : log.bytes <+: encode file) (hfirst : first ≤ start)
    (hstart : start ≤ stop) (hstop : stop ≤ log.size)
    : (ofWindow first (log.window first stop)).offset
        ≤
      (ofWindow start (log.window start stop)).offset := by
  by_cases hline : start = 0 ∨ 0x0A ∈ log.window start stop
  . exact offset_le_of_wider hfirst (Nat.le_refl stop) hline
  obtain ⟨hzero, hlf⟩ := not_or.mp hline
  have hge := (offset_bounds hstart hstop).1
  by_cases hzero' : first = 0
  . subst first
    rw [ofWindow_window, skipped_zero]
    apply Nat.zero_le
  by_cases hmem : 0x0A ∈ log.window first stop
  . -- the line feed is one of the bytes in front
    obtain ⟨i, hi, hbyte⟩ := exists_lineFeed_in_front hlf hmem
    obtain ⟨j, hskipped, _, hleast⟩ := skipped_of_mem hzero' hmem
    have hji := hleast i hbyte
    rw [ofWindow_window, hskipped]
    dsimp only
    omega
  . obtain ⟨k, hk, hoffset⟩ := exists_isLeast_of_not_mem hfile hzero hlf hstart hstop
    obtain ⟨j, hj, hoffset'⟩ :=
      exists_isLeast_of_not_mem hfile hzero' hmem (Nat.le_trans hfirst hstart) hstop
    have hjk : j ≤ k := hj.2 ⟨Nat.le_trans hfirst hk.1.1, hk.1.2⟩
    rw [hoffset, hoffset']
    omega

/-- The text of a window is the end of the text of a longer one that ends with it. -/
theorem exists_text_suffix (hfile : log.bytes <+: encode file) (hfirst : first ≤ start)
    (hstart : start ≤ stop) (hstop : stop ≤ log.size)
    : ∃ text text',
        (ofWindow start (log.window start stop)).text = some (String.ofList text)
          ∧ (ofWindow first (log.window first stop)).text = some (String.ofList text')
          ∧ text <:+ text' := by
  have hle := offset_le_of_front hfile hfirst hstart hstop
  have hfirst' := Nat.le_trans hfirst hstart
  have hbounds := (offset_bounds hstart hstop).2
  by_cases hend : (ofWindow start (log.window start stop)).offset = stop
  . -- there is no whole character in the window
    obtain ⟨offset, text, hview, hsize, _⟩ := exists_text hfile hstart hstop
    obtain ⟨offset', text', hview', _⟩ := exists_text hfile hfirst' hstop
    rw [hview] at hend
    dsimp only at hend
    have hnil : text = [] := Text.Utf8.eq_nil_of_size_eq_zero (by omega)
    refine ⟨[], text', ?_, ?_, List.nil_suffix⟩
    . rw [hview, hnil]
    . rw [hview']
  . have hboundary := (isBoundary_or_eq hfile hstart hstop).resolve_right hend
    have hboundary' := (isBoundary_or_eq hfile hfirst' hstop).resolve_right (by omega)
    obtain ⟨before, text, hview, happend⟩ := text_of_isBoundary hfile hstart hstop hboundary
    obtain ⟨before', text', hview', happend'⟩ :=
      text_of_isBoundary hfile hfirst' hstop hboundary'
    rw [hview, hview'] at hle
    obtain ⟨between, rfl⟩ := Text.Utf8.prefix_of_size_le
      (Text.Utf8.prefix_of_append_eq happend') (Text.Utf8.prefix_of_append_eq happend) hle
    rw [← happend, List.append_assoc, List.append_cancel_left_eq] at happend'
    refine ⟨text, text', ?_, ?_, ?_⟩
    . rw [hview]
    . rw [hview']
    . exact ⟨between, happend'.symm⟩

end RangeTail.TextView
