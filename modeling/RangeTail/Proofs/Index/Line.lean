import RangeTail.CommandLine.Run
import RangeTail.Proofs.Index.Opening
import RangeTail.Proofs.Text.Decimal

/-!
This module contains what is shown of the records of an index. The name of an action is quoted, but
the other texts of a record stand in its line as they are, so that the line breaks where one of them
holds a line feed.
-/

namespace RangeTail

namespace Text

theorem lineFeed_not_mem_toDigits (n : Nat) : '\n' ∉ Nat.toDigits 16 n := by
  have hdigit : ∀ d < 16, '\n' ≠ Nat.digitChar d := by decide
  induction n using Nat.strongRecOn with
  | ind n ih =>
    by_cases h : n < 16
    . rw [Nat.toDigits_of_lt_base h, List.mem_singleton]
      exact hdigit n h
    . have hmod : n % 16 < 16 := Nat.mod_lt n (by decide)
      rw [Nat.toDigits_of_base_le (by decide) (Nat.not_lt.mp h), List.mem_append, not_or,
        List.mem_singleton]
      exact ⟨ih (n / 16) (by omega), hdigit _ hmod⟩

theorem lineFeed_not_mem_quoteChar (c : Char) : '\n' ∉ quoteChar c := by
  unfold quoteChar
  split
  iterate 6 decide
  next hne _ _ =>
    split
    . rw [List.mem_singleton]
      exact fun heq => hne heq.symm
    . simp [lineFeed_not_mem_toDigits]

theorem lineFeed_not_mem_quoted (s : String) : '\n' ∉ (quoted s).toList := by
  simp [quoted, lineFeed_not_mem_quoteChar]

end Text

namespace Index

open Text.Utf8 (decodeLossy)

/-- The texts of a pointer, which are parts of the path of its file. -/
def Pointer.texts : Pointer → List String
  | .global segment _ => [segment]
  | .changes segment _ => [segment]
  | .role name segment _ => [name, segment]
  | .external name _ => [name]

/-- The texts of a record that its line in the index holds. -/
def Record.ownTexts (r : Record) : List String :=
  r.time :: r.deployment :: r.pointer.texts

/-- Whether there is a line feed in one of some texts. -/
def Breaks (texts : List String) : Prop :=
  ∃ s ∈ texts, '\n' ∈ s.toList

/-- The records that are listed of a part of an index. -/
def listed (o : CommandLine.IndexOptions) (chunk : Chunk) : List Record :=
  filtered (parse (decodeLossy chunk.bytes) (chunk.offset == 0)) (.parse o.role)

section

variable {rs : List Record} {r : Record} {s name : String} {texts more : List String}

theorem breaks_cons : Breaks (s :: texts) ↔ '\n' ∈ s.toList ∨ Breaks texts := by
  simp [Breaks]

theorem breaks_append : Breaks (texts ++ more) ↔ Breaks texts ∨ Breaks more := by
  simp [Breaks, or_and_right, exists_or]

theorem lineFeed_mem_viewPath (p : Pointer) : '\n' ∈ p.viewPath.toList ↔ Breaks p.texts := by
  unfold Breaks
  cases p with
  | global segment offset =>
    have hpath : (Pointer.global segment offset).viewPath
        = "/v1/log/global/log." ++ segment ++ ".txt" := rfl
    simp [hpath, Pointer.texts]
  | changes segment offset =>
    have hpath : (Pointer.changes segment offset).viewPath
        = "/v1/log/changes/log." ++ segment ++ ".txt" := rfl
    simp [hpath, Pointer.texts]
  | role name segment offset =>
    have hpath : (Pointer.role name segment offset).viewPath
        = "/v1/log/role/" ++ name ++ "/log." ++ segment ++ ".txt" := rfl
    simp [hpath, Pointer.texts]
  | external name offset =>
    have hpath : (Pointer.external name offset).viewPath = "/v1/log/external/" ++ name := rfl
    simp [hpath, Pointer.texts]

theorem lineFeed_not_mem_text (m : Marker) : '\n' ∉ m.text.toList := by
  cases m <;> simp [Marker.text, Text.lineFeed_not_mem_quoted]

theorem lineFeed_mem_padded {width : Nat} {s : String}
    : '\n' ∈ (padded width s).toList ↔ '\n' ∈ s.toList := by
  simp [padded]

/-- The line of a record breaks where a text of the record or its role does. -/
theorem lineFeed_mem_line (r : Record)
    : '\n' ∈ r.line.toList ↔ Breaks (r.ownTexts ++ r.role.toList) := by
  have hoffset : '\n' ∉ (toString r.pointer.offset).toList := by
    intro h
    have := Text.isDigit_of_mem_toString h
    contradiction
  have hrole : '\n' ∈ (r.role.getD "-").toList ↔ Breaks r.role.toList := by
    cases r.role <;> simp [Breaks]
  unfold Record.line
  simp only [String.toList_append, List.mem_append, lineFeed_mem_padded, lineFeed_not_mem_text,
    lineFeed_mem_viewPath, hoffset, hrole]
  simp only [Record.ownTexts, breaks_append, breaks_cons]
  simp [or_assoc, or_comm, or_left_comm]

/-- A role that is given to a record is named by one that starts it. -/
theorem exists_names_of_role (hr : r ∈ labelled none rs) (hrole : r.role = some name)
    : ∃ x ∈ labelled none rs, name ∈ x.ownTexts := by
  obtain ⟨i, hr⟩ := List.getElem?_of_mem hr
  obtain ⟨j, hopened⟩ := (role_labelled_iff hr).mp hrole
  obtain ⟨x, hx, _, rfl⟩ := hopened.start
  refine ⟨x, List.mem_of_getElem? hx, ?_⟩
  unfold Record.ownTexts
  cases x.pointer <;> simp [Pointer.ident, Pointer.texts]

/-- The lines of records stay whole if none of their texts breaks: each role is one of the texts. -/
theorem lines_labelled_iff
    : (∀ r ∈ labelled none rs, '\n' ∉ r.line.toList) ↔
        ∀ r ∈ labelled none rs, ¬ Breaks r.ownTexts := by
  simp only [lineFeed_mem_line, breaks_append, not_or]
  constructor
  . intro h r hr
    exact (h r hr).1
  . intro h r hr
    refine ⟨h r hr, ?_⟩
    rintro ⟨name, hname, hfeed⟩
    obtain ⟨x, hx, htexts⟩ := exists_names_of_role hr (Option.mem_toList.mp hname)
    exact h x hx ⟨name, htexts, hfeed⟩

theorem count_lineFeed_join (rs : List Record)
    : (String.join (rs.map fun r => r.line ++ "\n")).toList.count '\n'
        = rs.length + (rs.flatMap fun r => r.line.toList).count '\n' := by
  have hend : "\n".toList.count '\n' = 1 := by decide
  induction rs with
  | nil => rfl
  | cons r rs ih =>
    rw [String.toList_join] at ih ⊢
    rw [List.map_cons, List.flatMap_cons, List.count_append, ih, String.toList_append,
      List.count_append, hend, List.length_cons, List.flatMap_cons, List.count_append]
    omega

/-- Records are listed in as many lines as there are if and only if none of their lines breaks. -/
theorem count_lineFeed_join_iff
    : (String.join (rs.map fun r => r.line ++ "\n")).toList.count '\n' = rs.length ↔
        ∀ r ∈ rs, ¬ Breaks (r.ownTexts ++ r.role.toList) := by
  rw [count_lineFeed_join, Nat.add_eq_left, List.count_eq_zero]
  simp only [List.mem_flatMap, lineFeed_mem_line, not_exists, not_and]

end

/-- The line of a record breaks if and only if there is a line feed in one of its texts or in its
role. The lines of an index stay whole if and only if there is none in the texts of its records, and
what is listed has one line for each record if and only if there is none in these. -/
theorem lines_whole_iff (text : List Char) (fromFileStart : Bool) (o : CommandLine.IndexOptions)
    (url : Url) (chunk : Chunk)
    : (∀ r : Record, '\n' ∈ r.line.toList ↔ Breaks (r.ownTexts ++ r.role.toList))
        ∧ ((∀ r ∈ parse text fromFileStart, '\n' ∉ r.line.toList) ↔
          ∀ r ∈ parse text fromFileStart, ¬ Breaks r.ownTexts)
        ∧ ∃ output, o.report url (.ok chunk) = .ok output
          ∧ (output.toList.count '\n' = (listed o chunk).length ↔
            ∀ r ∈ listed o chunk, ¬ Breaks (r.ownTexts ++ r.role.toList)) := by
  refine ⟨lineFeed_mem_line, ?_, _, rfl, count_lineFeed_join_iff⟩
  rw [parse, assignRoles_eq]
  exact lines_labelled_iff

/-- An index of one record whose time holds a line feed. -/
def brokenIndex : String :=
  "[\"t\\n1\",\"d1\",\x7b\"variant\":\"Global\",\"fields\":[\"s1\",0]\x7d,\"DeploymentStart\"]\n"

theorem line_feed_breaks_line
    : ¬ ∀ (text : List Char) (fromFileStart : Bool), ∀ r ∈ parse text fromFileStart,
        '\n' ∉ r.line.toList := by
  intro h
  have hparse : parse brokenIndex.toList true
      = [⟨"t\n1", "d1", .global "s1" 0, .deploymentStart, none⟩] := by
    decide +kernel
  have hline := h brokenIndex.toList true
  rw [hparse] at hline
  exact hline _ List.mem_cons_self ((lineFeed_mem_line _).mpr ⟨"t\n1", by decide, by decide⟩)

end Index
end RangeTail
