import RangeTail.Proofs.Index.Roles
import RangeTail.Proofs.Text.Lossy

/-!
This module contains the meaning of the roles that the records of an index are given: the role of a
record is the one that was started last, at the record or before it, unless a role was finished in
between. Lines that hold no record have no influence on it.
-/

namespace RangeTail.Index

/-- Whether a record has a marker and names something. -/
def Happens (rs : List Record) (i : Nat) (marker : Marker) (name : String) : Prop :=
  ∃ r, rs[i]? = some r ∧ r.marker = marker ∧ r.pointer.ident = name

/-- Whether the role that covers record `i` was started by record `j`: no role was started later, and
none was finished from there up to the record in front of `i`. -/
structure OpenedAt (rs : List Record) (name : String) (j i : Nat) : Prop where
  le : j ≤ i
  start : Happens rs j .roleStart name
  latest : ∀ k other, j < k → k ≤ i → ¬ Happens rs k .roleStart other
  unfinished : ∀ k other, j ≤ k → k < i → ¬ Happens rs k .roleFinish other

section

variable {rs : List Record} {r s : Record} {i j : Nat} {marker : Marker} {name : String}
variable {openRole : Option String}

theorem happens_iff (h : rs[i]? = some r)
    : Happens rs i marker name ↔ r.marker = marker ∧ r.pointer.ident = name := by
  simp [Happens, h]

theorem openedAt_of_start (h : rs[i]? = some r) (hstart : r.marker = .roleStart)
    : OpenedAt rs name j i ↔ j = i ∧ r.pointer.ident = name := by
  constructor
  . intro hopened
    have hle := hopened.le
    have hlatest := hopened.latest i r.pointer.ident
    rw [happens_iff h] at hlatest
    have heq : j = i := by
      by_contra hne
      exact hlatest (by omega) (Nat.le_refl i) ⟨hstart, rfl⟩
    subst heq
    exact ⟨rfl, ((happens_iff h).mp hopened.start).2⟩
  . rintro ⟨rfl, hname⟩
    refine ⟨Nat.le_refl j, (happens_iff h).mpr ⟨hstart, hname⟩, ?_, ?_⟩
    . intro k other hlt hle
      omega
    . intro k other hle hlt
      omega

theorem not_openedAt_zero (h : rs[0]? = some r) (hstart : r.marker ≠ .roleStart)
    : ¬ OpenedAt rs name j 0 := by
  intro hopened
  obtain rfl := Nat.le_zero.mp hopened.le
  exact hstart ((happens_iff h).mp hopened.start).1

theorem not_openedAt_succ (h : rs[i]? = some r) (h' : rs[i + 1]? = some s)
    (hfinish : r.marker = .roleFinish) (hstart : s.marker ≠ .roleStart)
    : ¬ OpenedAt rs name j (i + 1) := by
  intro hopened
  obtain hle | rfl := Nat.le_or_eq_of_le_succ hopened.le
  . exact hopened.unfinished i _ hle (Nat.lt_succ_self i) ((happens_iff h).mpr ⟨hfinish, rfl⟩)
  . exact hstart ((happens_iff h').mp hopened.start).1

/-- A record that starts no role has the one that is open behind the record in front of it. -/
theorem openedAt_succ_iff (h : rs[i]? = some r) (h' : rs[i + 1]? = some s)
    (hfinish : r.marker ≠ .roleFinish) (hstart : s.marker ≠ .roleStart)
    : OpenedAt rs name j (i + 1) ↔ OpenedAt rs name j i := by
  constructor
  . intro hopened
    obtain hle | rfl := Nat.le_or_eq_of_le_succ hopened.le
    . refine ⟨hle, hopened.start, ?_, ?_⟩
      . intro k other hlt hle
        exact hopened.latest k other hlt (Nat.le_succ_of_le hle)
      . intro k other hle hlt
        exact hopened.unfinished k other hle (Nat.lt_succ_of_lt hlt)
    . exact absurd ((happens_iff h').mp hopened.start).1 hstart
  . intro hopened
    refine ⟨Nat.le_succ_of_le hopened.le, hopened.start, ?_, ?_⟩
    . intro k other hlt hle
      obtain hle | rfl := Nat.le_or_eq_of_le_succ hle
      . exact hopened.latest k other hlt hle
      . rw [happens_iff h']
        exact fun hmarker => hstart hmarker.1
    . intro k other hle hlt
      obtain hlt | rfl := Nat.lt_succ_iff_lt_or_eq.mp hlt
      . exact hopened.unfinished k other hle hlt
      . rw [happens_iff h]
        exact fun hmarker => hfinish hmarker.1

/-! The role of one record -/

theorem role_assignRole (openRole : Option String) (r : Record)
    : (assignRole openRole r).1.role
        = if r.marker = .roleStart then some r.pointer.ident else openRole := by
  unfold assignRole
  split
  . next hstart => rw [if_pos hstart]
  . next hfinish =>
    rw [hfinish]
    rfl
  . next hstart _ => rw [if_neg hstart]

theorem open_assignRole (openRole : Option String) (r : Record)
    : (assignRole openRole r).2
        = if r.marker = .roleFinish then none else (assignRole openRole r).1.role := by
  unfold assignRole
  split
  . next hstart =>
    rw [hstart]
    rfl
  . next hfinish => rw [if_pos hfinish]
  . next hfinish => rw [if_neg hfinish]

theorem marker_assignRole (openRole : Option String) (r : Record)
    : (assignRole openRole r).1.marker = r.marker := by
  unfold assignRole
  split <;> rfl

theorem pointer_assignRole (openRole : Option String) (r : Record)
    : (assignRole openRole r).1.pointer = r.pointer := by
  unfold assignRole
  split <;> rfl

theorem role_labelled_zero (h : (labelled openRole rs)[0]? = some r)
    : r.role = if r.marker = .roleStart then some r.pointer.ident else openRole := by
  cases rs with
  | nil => contradiction
  | cons x rs =>
    obtain rfl := Option.some.inj h
    rw [role_assignRole, marker_assignRole, pointer_assignRole]

/-- The role of a record is found from the record in front of it alone. -/
theorem role_labelled_succ (h : (labelled openRole rs)[i]? = some r)
    (h' : (labelled openRole rs)[i + 1]? = some s)
    : s.role = if s.marker = .roleStart then some s.pointer.ident
        else if r.marker = .roleFinish then none else r.role := by
  induction rs generalizing openRole i with
  | nil => contradiction
  | cons x rs ih =>
    rw [labelled, List.getElem?_cons_succ] at h'
    cases i with
    | zero =>
      obtain rfl := Option.some.inj h
      rw [role_labelled_zero h', open_assignRole, marker_assignRole]
    | succ i =>
      rw [labelled, List.getElem?_cons_succ] at h
      exact ih h h'

/-- The role of a record is the one that was started last, unless a role was finished since. -/
theorem role_labelled_iff (h : (labelled none rs)[i]? = some r)
    : r.role = some name ↔ ∃ j, OpenedAt (labelled none rs) name j i := by
  induction i generalizing r with
  | zero =>
    rw [role_labelled_zero h]
    split
    . next hstart => simp [openedAt_of_start h hstart]
    . next hstart => simp [not_openedAt_zero h hstart]
  | succ i ih =>
    obtain ⟨hi, _⟩ := List.getElem?_eq_some_iff.mp h
    have hbefore := List.getElem?_eq_getElem (Nat.lt_of_succ_lt hi)
    -- a start opens a role itself, and behind a finish no role is open: only of the other records
    -- something has to be known of what comes before
    rw [role_labelled_succ hbefore h]
    split
    . next hstart => simp [openedAt_of_start h hstart]
    . next hstart =>
      split
      . next hfinish => simp [not_openedAt_succ hbefore h hfinish hstart]
      . next hfinish =>
        rw [ih hbefore]
        simp only [openedAt_succ_iff hbefore h hfinish hstart]

end

/-! Lines that hold no record -/

/-- Whether a line holds a record. -/
def holdsRecord (line : List Char) : Bool :=
  (Record.ofLine line).toOption.isSome

/-- A part of an index with some of the lines that are read of it. The lines that are left out of the
reading at its beginning and at its end stay. -/
def keepLines (keep : List Char → Bool) (text : List Char) (fromFileStart : Bool) : List Char :=
  let lines := Text.splitOn '\n' text
  let first := lines.dropLast.take (if fromFileStart then 0 else 1)
  List.intercalate ['\n'] (first ++ (wholeLines text fromFileStart).filter keep
    ++ lines.getLast?.toList)

section

variable {keep : List Char → Bool} {text : List Char} {fromFileStart : Bool}

theorem wholeLines_eq (text : List Char) (fromFileStart : Bool)
    : wholeLines text fromFileStart
        = (Text.splitOn '\n' text).dropLast.drop (if fromFileStart then 0 else 1) := by
  unfold wholeLines
  cases fromFileStart <;> rfl

theorem drop_take_append_filter (p : α → Bool) (n : Nat) (l : List α)
    : (l.take n ++ (l.drop n).filter p).drop n = (l.drop n).filter p := by
  cases Nat.le_total n l.length with
  | inl hle => exact List.drop_left' (List.length_take_of_le hle)
  | inr hle =>
    rw [List.drop_of_length_le hle, List.filter_nil, List.append_nil, List.take_of_length_le hle,
      List.drop_of_length_le hle]

/-- Lines of a text that are joined again are the lines of what they are joined to. -/
theorem splitOn_joined {lines : List (List Char)}
    (h : ∀ line ∈ lines, line ∈ Text.splitOn '\n' text) (hne : lines ≠ [])
    : Text.splitOn '\n' (List.intercalate ['\n'] lines) = lines := by
  rw [Text.splitOn_eq] at h ⊢
  apply List.splitOn_intercalate _ _ hne
  intro line hline
  exact Text.not_mem_of_mem_splitOn (h line hline)

theorem exists_getLast?_splitOn (text : List Char)
    : ∃ last, (Text.splitOn '\n' text).getLast? = some last := by
  rw [Text.splitOn_eq]
  exact ⟨_, List.getLast?_eq_some_getLast (List.splitOn_ne_nil '\n' text)⟩

theorem wholeLines_keepLines
    : wholeLines (keepLines keep text fromFileStart) fromFileStart
        = (wholeLines text fromFileStart).filter keep := by
  obtain ⟨last, hlast⟩ := exists_getLast?_splitOn text
  rw [wholeLines_eq, wholeLines_eq, keepLines, wholeLines_eq, hlast, Option.toList_some]
  rw [splitOn_joined, List.dropLast_concat, drop_take_append_filter]
  . intro line hline
    simp only [List.mem_append, List.mem_filter, List.mem_singleton] at hline
    obtain (hline | ⟨hline, _⟩) | rfl := hline
    . exact List.dropLast_subset _ (List.mem_of_mem_take hline)
    . exact List.dropLast_subset _ (List.mem_of_mem_drop hline)
    . exact List.mem_of_getLast? hlast
  . simp

/-- Lines that hold no record can be left out. -/
theorem parse_keepLines
    : parse (keepLines holdsRecord text fromFileStart) fromFileStart = parse text fromFileStart := by
  have hholds : (fun line => if holdsRecord line = true then (Record.ofLine line).toOption else none)
      = fun line => (Record.ofLine line).toOption := by
    funext line
    unfold holdsRecord
    cases (Record.ofLine line).toOption <;> rfl
  rw [parse, wholeLines_keepLines, List.filterMap_filter, hholds, parse]

/-- The records are those that the lines hold. The role of a record is the one that was started last,
at the record or before it, unless a role was finished since, and it has none otherwise; where the
lines that hold no record are left out, the records and their roles are the same. -/
theorem role_iff_opened (text : List Char) (fromFileStart : Bool)
    : (parse text fromFileStart).map Record.bare
          = (wholeLines text fromFileStart).filterMap (fun line => (Record.ofLine line).toOption)
        ∧ (∀ i r, (parse text fromFileStart)[i]? = some r →
          ∀ name, r.role = some name ↔ ∃ j, OpenedAt (parse text fromFileStart) name j i)
        ∧ parse (keepLines holdsRecord text fromFileStart) fromFileStart
          = parse text fromFileStart := by
  refine ⟨?_, ?_, parse_keepLines⟩
  . rw [parse, assignRoles_eq, map_bare_labelled]
    exact map_bare_filterMap (fun _ _ h => role_of_ofLine h) _
  . intro i r hr name
    rw [parse, assignRoles_eq] at hr ⊢
    exact role_labelled_iff hr

end

end RangeTail.Index
