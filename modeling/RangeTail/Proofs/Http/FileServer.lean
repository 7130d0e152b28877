import RangeTail.Http.FileServer
import RangeTail.Http.Request
import RangeTail.Proofs.Http.ContentRange
import RangeTail.Proofs.Snapshot.Stop
import RangeTail.Proofs.Text.Utf8

/-!
This module contains the proof that the way over HTTP changes nothing: what is fetched from a server
of a log is what the log itself answers.
-/

namespace RangeTail.Http

open Text.Utf8

/-- Whether a text has only characters that a header line shows as they are. -/
def IsPrintable (s : List Char) : Prop :=
  ∀ c ∈ s, 0x20 ≤ c.toNat ∧ c.toNat < 0x7F

variable {text : String} {s : List Char} {c : Char}

theorem IsPrintable.toNat_byte (h : IsPrintable s) (hc : c ∈ s)
    : (UInt8.ofNat c.toNat).toNat = c.toNat := by
  have := h c hc
  rw [UInt8.toNat_ofNat']
  omega

theorem headerBytes_eq_map (h : IsPrintable text.toList)
    : headerBytes text = text.toList.map fun c => UInt8.ofNat c.toNat := by
  unfold headerBytes encode
  rw [List.map_eq_flatMap]
  apply List.flatMap_congr
  intro c hc
  apply encodeChar_one
  have := h c hc
  omega

theorem valueText_headerBytes (h : IsPrintable text.toList)
    : Response.valueText (headerBytes text) = some text := by
  have htext : (headerBytes text).all Response.isText = true := by
    rw [headerBytes_eq_map h, List.all_map, List.all_eq_true]
    intro c hc
    simp only [Function.comp, Response.isText, Bool.or_eq_true, Bool.and_eq_true, decide_eq_true_eq,
      UInt8.le_iff_toNat_le, h.toNat_byte hc]
    exact .inl ⟨(h c hc).1, Nat.le_of_lt_succ (h c hc).2⟩
  have hback : (headerBytes text).map (fun b => Char.ofNat b.toNat) = text.toList := by
    rw [headerBytes_eq_map h, List.map_map]
    conv => rhs; rw [← List.map_id text.toList]
    apply List.map_congr_left
    intro c hc
    rw [Function.comp, h.toNat_byte hc, Char.ofNat_toNat, id]
  rw [Response.valueText, if_pos htext, hback, String.ofList_toList]

theorem not_isControl_headerBytes (h : IsPrintable text.toList)
    : (headerBytes text).any Response.isControl = false := by
  rw [headerBytes_eq_map h, List.any_map, List.any_eq_false]
  intro c hc
  have hrange := h c hc
  have hbyte := h.toNat_byte hc
  simp only [Function.comp, Response.isControl, Bool.or_eq_true, Bool.and_eq_true, decide_eq_true_eq,
    beq_iff_eq, UInt8.lt_iff_toNat_lt, ← UInt8.toNat_inj, hbyte]
  have h₁ : (0x20 : UInt8).toNat = 0x20 := rfl
  have h₂ : (0x7F : UInt8).toNat = 0x7F := rfl
  omega

theorem not_isBlank_byte (h : IsPrintable s) (hc : c ∈ s) (hne : c ≠ ' ')
    : Response.isBlank (UInt8.ofNat c.toNat) = false := by
  have hrange := h c hc
  have hbyte := h.toNat_byte hc
  have hspace : c.toNat ≠ 0x20 := fun h => hne (Char.toNat_inj.mp h)
  simp only [Response.isBlank, Bool.or_eq_false_iff, beq_eq_false_iff_ne, ne_eq, ← UInt8.toNat_inj,
    hbyte]
  have h₁ : (0x20 : UInt8).toNat = 0x20 := rfl
  have h₂ : (0x09 : UInt8).toNat = 0x09 := rfl
  omega

section

variable (c : ContentRange)

theorem isPrintable_text : IsPrintable c.text.toList := by
  intro x hx
  rw [ContentRange.toList_text, List.mem_append, List.mem_cons] at hx
  obtain hx | rfl | hx := hx
  . have hunit : "bytes".toList.all (fun x => 0x20 ≤ x.toNat ∧ x.toNat < 0x7F) = true := by decide
    exact of_decide_eq_true (List.all_eq_true.mp hunit x hx)
  . decide
  . have := ContentRange.toNat_of_mem_rangeText hx
    omega

theorem trimValue_headerBytes
    : Response.trimValue (headerBytes c.text) = headerBytes c.text := by
  apply Text.dropWhile_of_ends
  . rw [headerBytes_eq_map (isPrintable_text c), ContentRange.toList_text]
    rintro b ⟨⟩
    rfl
  . intro b hb
    rw [headerBytes_eq_map (isPrintable_text c), List.getLast?_map, Option.mem_def,
      Option.map_eq_some_iff] at hb
    obtain ⟨x, hx, rfl⟩ := hb
    apply not_isBlank_byte (isPrintable_text c) (List.mem_of_getLast? hx)
    rintro rfl
    have := ContentRange.toNat_of_mem_rangeText (ContentRange.mem_rangeText_of_getLast? hx)
    simp at this

theorem contentRange_eq_parse {answer : Response} (h : answer.contentRanges = [headerBytes c.text])
    : answer.contentRange = ContentRange.parse c.text := by
  simp only [Response.contentRange, h, trimValue_headerBytes,
    valueText_headerBytes (isPrintable_text c)]

end

section

variable {log : MemoryLog} {r : ByteRange}

theorem result_fileServer (hsize : log.size ≤ maxOffset)
    : (fileServer log r).result = log.serve r := by
  unfold fileServer
  cases hserve : log.serve r with
  | ok chunk =>
    obtain ⟨_, hstop, htotal, hlt⟩ := MemoryLog.stop_of_serve hserve
    have hle := MemoryLog.bounds_snd_le log.size r
    -- an answer with bytes is never empty, so its last position is one and lies inside the log
    have hread := @ContentRange.parse_text_covered chunk.offset (chunk.stop - 1) chunk.total
      (by omega) (by omega) (by omega)
    dsimp only
    rw [Response.result, if_pos rfl, contentRange_eq_parse _ rfl, hread]
    simp [Response.wholeBody, Except.map]
  | error fault =>
    have hread := ContentRange.parse_text_unsatisfied hsize
    have hstatus : 416 ≠ 206 := by decide
    dsimp only
    rw [Response.result, if_neg hstatus, contentRange_eq_parse _ rfl, hread,
      MemoryLog.eq_emptyFile_of_serve hserve]
    rfl

theorem isAnswer_fileServer (hsize : log.size ≤ Response.maxLength)
    : (fileServer log r).isAnswer = true := by
  unfold fileServer
  cases hserve : log.serve r with
  | ok chunk =>
    obtain ⟨_, hstop, _, hlt⟩ := MemoryLog.stop_of_serve hserve
    have hle := MemoryLog.bounds_snd_le log.size r
    have hlength : chunk.bytes.length ≤ Response.maxLength := by
      unfold Chunk.stop at *
      omega
    simp [Response.isAnswer, not_isControl_headerBytes (isPrintable_text _), hlength]
  | error fault =>
    simp [Response.isAnswer, not_isControl_headerBytes (isPrintable_text _)]

theorem range_of_ofText {url : String} {request : Request} (h : Request.ofText url r = .ok request)
    : request.range = r := by
  unfold Request.ofText Request.ofUrl at h
  split at h
  . split at h
    . rw [← Except.ok.inj h]
    . contradiction
  . contradiction

/-- What is fetched from a server of a log is exactly what the log answers to the range: the same
bytes, or the news that there are none. -/
theorem fetch_eq_serve {exchange : Request → Option Response} {url : String} {request : Request}
    (hsize : log.size ≤ Response.maxLength) (hurl : Request.ofText url r = .ok request)
    (hserver : exchange request = some (fileServer log request.range))
    : fetch exchange url r = log.serve r := by
  have hoffset : log.size ≤ maxOffset := Nat.le_trans hsize (by decide)
  have hfetch : fetch exchange url r = request.outcome (exchange request) := by
    rw [fetch, hurl]
    rfl
  rw [hfetch, hserver, range_of_ofText hurl, Request.outcome, if_pos (isAnswer_fileServer hsize),
    result_fileServer hoffset]

theorem fetch_eq_serve_suffix
    : let log : MemoryLog := ⟨[111, 110, 101, 10]⟩
      let exchange := fun request : Request => some (fileServer log request.range)
      log.size ≤ Response.maxLength
        ∧ (Request.ofText "http://logs.test/log.txt" (.suffix 3)).toOption.isSome = true
        ∧ fetch exchange "http://logs.test/log.txt" (.suffix 3) = .ok ⟨1, [110, 101, 10], 4⟩ := by
  intro log exchange
  have hsize : log.size ≤ Response.maxLength := by decide
  have hmade : (Request.ofText "http://logs.test/log.txt" (.suffix 3)).toOption.isSome = true := by
    decide +kernel
  refine ⟨hsize, hmade, ?_⟩
  cases hurl : Request.ofText "http://logs.test/log.txt" (.suffix 3) with
  | ok request =>
    rw [fetch_eq_serve hsize hurl rfl]
    rfl
  | error fault =>
    rw [hurl] at hmade
    contradiction

end

end RangeTail.Http
