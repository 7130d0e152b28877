import RangeTail.Proofs.Text.Decoding
import RangeTail.Proofs.Text.View

/-!
This module contains when a window has no text: only when nothing that might follow its bytes could
make UTF-8 of them. Bytes that are added to a window therefore add to its text or take it away for
good.
-/

namespace RangeTail

open Text.Utf8 (encode)

namespace Text.Utf8

/-- Whether there are bytes that make a text of these when they follow. -/
def IsCompletable (s : List UInt8) : Prop :=
  ∃ more cs, s ++ more = encode cs

variable {s more : List UInt8} {cs longer file : List Char}

theorem IsCompletable.of_append (h : IsCompletable (s ++ more)) : IsCompletable s := by
  obtain ⟨rest, cs, heq⟩ := h
  exact ⟨more ++ rest, cs, by rw [← List.append_assoc, heq]⟩

theorem IsCut.isCompletable (h : IsCut s) : IsCompletable s := by
  obtain ⟨c, ⟨more, hmore⟩, _⟩ := h
  exact ⟨more, [c], by simp [hmore]⟩

/-- A text is read of bytes if and only if they could go on as one. -/
theorem exists_decodeOpen_iff : (∃ cs, decodeOpen s = some cs) ↔ IsCompletable s := by
  constructor
  . rintro ⟨cs, hdecode⟩
    obtain ⟨tail, hcut, rfl⟩ := decodeOpen_eq_some_iff.mp hdecode
    obtain ⟨more, last, hlast⟩ := hcut.isCompletable
    exact ⟨more, cs ++ last, by rw [List.append_assoc, hlast, encode_append]⟩
  . rintro ⟨more, file, heq⟩
    refine ⟨fitting s.length file, ?_⟩
    rw [← decodeOpen_take_encode, ← heq, List.take_left]

theorem fitting_size (cs : List Char) : fitting (size cs) cs = cs := by
  have := fitting_append [] (Nat.le_refl (size cs))
  rwa [List.append_nil, fitting, List.append_nil] at this

/-- A text whose bytes begin those of another one is the part of it that fits in as many bytes. -/
theorem eq_fitting_of_prefix (h : encode cs <+: encode file) : cs = fitting (size cs) file := by
  have htake : (encode file).take (size cs) = (encode cs).take (size cs) := by
    rw [size_eq_length, ← List.prefix_iff_eq_take.mp h, List.take_length]
  have hread := decodeOpen_take_encode (size cs) file
  rw [htake, decodeOpen_take_encode, fitting_size] at hread
  exact Option.some.inj hread

/-- No longer text stands at the front of some bytes than the one that is read of them. -/
theorem prefix_of_decodeOpen (h : decodeOpen s = some cs) (hlonger : encode longer <+: s)
    : longer <+: cs := by
  obtain ⟨more, file, heq⟩ := exists_decodeOpen_iff.mp ⟨cs, h⟩
  have hs : s = (encode file).take s.length := by rw [← heq, List.take_left]
  rw [hs, decodeOpen_take_encode, Option.some.injEq] at h
  have hfile : encode longer <+: encode file := by
    rw [← heq]
    exact hlonger.trans (List.prefix_append s more)
  rw [← h, eq_fitting_of_prefix hfile]
  apply fitting_prefix_fitting
  rw [size_eq_length]
  exact hlonger.length_le

theorem encode_prefix_of_decodeOpen (h : decodeOpen s = some cs) : encode cs <+: s := by
  obtain ⟨tail, _, rfl⟩ := decodeOpen_eq_some_iff.mp h
  apply List.prefix_append

/-- What is read of bytes with more behind them begins with what is read of them alone. -/
theorem exists_decodeOpen_of_append (h : decodeOpen (s ++ more) = some longer)
    : ∃ cs, decodeOpen s = some cs ∧ cs <+: longer := by
  have hs : IsCompletable s := .of_append (exists_decodeOpen_iff.mp ⟨longer, h⟩)
  obtain ⟨cs, hcs⟩ := exists_decodeOpen_iff.mpr hs
  refine ⟨cs, hcs, prefix_of_decodeOpen h ?_⟩
  exact (encode_prefix_of_decodeOpen hcs).trans (List.prefix_append s more)

end Text.Utf8

namespace TextView

open Text.Utf8 (IsCompletable decodeOpen)

variable {offset : Nat} {bytes more : List UInt8} {text : String}

theorem text_eq_some_iff
    : (ofWindow offset bytes).text = some text ↔
        decodeOpen (bytes.drop (skipped offset bytes)) = some text.toList := by
  unfold ofWindow
  rw [Option.map_eq_some_iff]
  constructor
  . rintro ⟨cs, hcs, rfl⟩
    rw [String.toList_ofList]
    exact hcs
  . intro h
    exact ⟨_, h, String.ofList_toList⟩

theorem isBroken_eq_false_iff
    : (ofWindow offset bytes).isBroken = false ↔
        ∃ text, (ofWindow offset bytes).text = some text := by
  unfold isBroken
  rw [Option.isNone_eq_false_iff, Option.isSome_iff_exists]

theorem isBroken_eq_false_iff_isCompletable
    : (ofWindow offset bytes).isBroken = false ↔
        IsCompletable (bytes.drop (skipped offset bytes)) := by
  rw [isBroken_eq_false_iff, ← Text.Utf8.exists_decodeOpen_iff]
  simp only [text_eq_some_iff]
  constructor
  . rintro ⟨text, h⟩
    exact ⟨_, h⟩
  . rintro ⟨cs, h⟩
    exact ⟨String.ofList cs, by rw [String.toList_ofList, h]⟩

theorem drop_skipped_append (h : skipped offset (bytes ++ more) = skipped offset bytes)
    : (bytes ++ more).drop (skipped offset (bytes ++ more))
        =
      bytes.drop (skipped offset bytes) ++ more := by
  rw [h, List.drop_append_of_le_length (skipped_le_length offset bytes)]

/-- A text that is there after bytes were added to a window goes on from the one before. -/
theorem exists_text_of_append (h : skipped offset (bytes ++ more) = skipped offset bytes)
    (htext : (ofWindow offset (bytes ++ more)).text = some text)
    : ∃ before added, (ofWindow offset bytes).text = some before ∧ text = before ++ added := by
  rw [text_eq_some_iff, drop_skipped_append h] at htext
  obtain ⟨cs, hcs, added, hadded⟩ := Text.Utf8.exists_decodeOpen_of_append htext
  refine ⟨String.ofList cs, String.ofList added, ?_, ?_⟩
  . rw [text_eq_some_iff, String.toList_ofList, hcs]
  . rw [← String.ofList_append, hadded, String.ofList_toList]

section

variable {o : Overflow} {view : TextView}

theorem decode_eq_none_iff
    : decode o offset bytes = none ↔ o = .stops ∧ maxOffset < offset + skipped offset bytes := by
  unfold decode
  rw [Option.map_eq_none_iff]
  cases o with
  | stops => rw [Overflow.stops_sum_eq_none_iff, and_iff_right rfl]
  | wraps =>
    unfold Overflow.sum
    split <;> simp

theorem decode_eq_some_iff
    : decode o offset bytes = some view ↔
        ∃ start, o.sum offset (skipped offset bytes) = some start
          ∧ ⟨start, (ofWindow offset bytes).text⟩ = view := by
  unfold decode
  rw [Option.map_eq_some_iff]

end

/--
What is read of a window is read in every build, unless the build stops at the sum for where the text
begins. A window has a text if and only if the bytes behind those that it leaves out could go on as
UTF-8, and then its text is the longest that stands at their front. Bytes that are added to a window,
and do not change how many it leaves out, add to its text or leave it without one, and one that has
none stays so.
-/
theorem broken_iff_not_completable (o : Overflow) (offset : Nat) (bytes : List UInt8)
    : let k := skipped offset bytes
      (decode o offset bytes = none ↔ o = .stops ∧ maxOffset < offset + k)
        ∧ ∀ view, decode o offset bytes = some view →
          o.sum offset k = some view.offset
            ∧ (view.isBroken = false ↔ ∃ more cs, bytes.drop k ++ more = encode cs)
            ∧ (view.isBroken = false → ∃ text, view.text = some text
                ∧ encode text.toList <+: bytes.drop k
                ∧ ∀ cs, encode cs <+: bytes.drop k → encode cs <+: encode text.toList)
            ∧ ∀ more, skipped offset (bytes ++ more) = k →
                ∃ later, decode o offset (bytes ++ more) = some later
                  ∧ (later.isBroken = true
                    ∨ ∃ text added, view.text = some text ∧ later.text = some (text ++ added))
                  ∧ (view.isBroken = true → later.isBroken = true) := by
  intro k
  refine ⟨decode_eq_none_iff, ?_⟩
  intro view hview
  -- the builds differ in nothing but where the text begins
  obtain ⟨start, hstart, rfl⟩ := decode_eq_some_iff.mp hview
  refine ⟨hstart, isBroken_eq_false_iff_isCompletable, ?_, ?_⟩
  . intro hbroken
    obtain ⟨text, htext⟩ := isBroken_eq_false_iff.mp hbroken
    have hdecode := text_eq_some_iff.mp htext
    refine ⟨text, htext, Text.Utf8.encode_prefix_of_decodeOpen hdecode, ?_⟩
    intro cs hcs
    obtain ⟨rest, hrest⟩ := Text.Utf8.prefix_of_decodeOpen hdecode hcs
    rw [← hrest, Text.Utf8.encode_append]
    apply List.prefix_append
  . intro more hk
    have hlater : decode o offset (bytes ++ more)
        = some ⟨start, (ofWindow offset (bytes ++ more)).text⟩ := by
      rw [decode_eq_some_iff]
      exact ⟨start, by rw [hk, hstart], rfl⟩
    refine ⟨_, hlater, ?_⟩
    cases hbroken : (ofWindow offset (bytes ++ more)).isBroken with
    | true => exact ⟨.inl hbroken, fun _ => hbroken⟩
    | false =>
      obtain ⟨text, htext⟩ := isBroken_eq_false_iff.mp hbroken
      obtain ⟨before, added, hbefore, rfl⟩ := exists_text_of_append hk htext
      have hfront : (ofWindow offset bytes).isBroken = false :=
        isBroken_eq_false_iff.mpr ⟨before, hbefore⟩
      refine ⟨.inr ⟨before, added, hbefore, htext⟩, ?_⟩
      intro hview
      exact absurd (hfront.symm.trans hview) nofun

/-- What has begun as a surrogate is no text whatever follows, and what has begun as a character is
one without it. At the largest offset no text begins behind a line feed. -/
theorem broken_iff_not_completable_surrogate
    : decode .stops 7 [0x61, 0xED, 0xA0] = some ⟨7, none⟩
        ∧ (∃ later, decode .stops 7 ([0x61, 0xED, 0xA0] ++ [0x80]) = some later
          ∧ later.isBroken = true)
        ∧ decode .stops 7 [0x61, 0xED, 0x9F] = some ⟨7, some "a"⟩
        ∧ decode .stops maxOffset [0x0A] = none
        ∧ decode .wraps maxOffset [0x0A] = some ⟨0, some ""⟩ := by
  have hview : decode .stops 7 [0x61, 0xED, 0xA0] = some ⟨7, none⟩ := by decide +kernel
  have hk : skipped 7 ([0x61, 0xED, 0xA0] ++ [0x80]) = skipped 7 [0x61, 0xED, 0xA0] := by decide
  obtain ⟨_, hread⟩ := broken_iff_not_completable .stops 7 [0x61, 0xED, 0xA0]
  obtain ⟨_, _, _, happend⟩ := hread _ hview
  obtain ⟨later, hlater, _, hbroken⟩ := happend [0x80] hk
  obtain ⟨hstops, _⟩ := broken_iff_not_completable .stops maxOffset [0x0A]
  exact ⟨hview, ⟨later, hlater, hbroken rfl⟩, by decide +kernel,
    hstops.mpr ⟨rfl, by decide⟩, by decide +kernel⟩

end TextView
end RangeTail
