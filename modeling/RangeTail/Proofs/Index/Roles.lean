import Mathlib.Data.List.Basic
import RangeTail.Index.Listing

/-!
This module contains the theory of the roles that records are given. They depend on what stands
before the records through one role alone, the one that is open, and on nothing once a role has been
started or finished among the records themselves. A record has none when it is read of its line.
-/

namespace RangeTail.Index

/-- A record without the role that it was given. -/
def Record.bare (r : Record) : Record :=
  { r with role := none }

/-- Records with the roles that they belong to, where one may be open before them. -/
def labelled (openRole : Option String) : List Record → List Record
  | [] => []
  | r :: rs => (assignRole openRole r).1 :: labelled (assignRole openRole r).2 rs

/-- The role that is open behind records. -/
def openAfter (openRole : Option String) (rs : List Record) : Option String :=
  rs.foldl (fun openRole r => (assignRole openRole r).2) openRole

/-- Whether the role of a record does not depend on what stands before the records. -/
def IsSettled (rs : List Record) (i : Nat) : Prop :=
  (∃ j ≤ i, (rs.map Record.marker)[j]? = some .roleStart)
    ∨ ∃ j < i, (rs.map Record.marker)[j]? = some .roleFinish

section

variable {openRole : Option String} {r : Record} {rs : List Record} {i : Nat}

@[simp] theorem bare_assignRole : (assignRole openRole r).1.bare = r.bare := by
  unfold assignRole
  split <;> rfl

theorem assignRole_of_roleStart (h : r.marker = .roleStart)
    : assignRole openRole r = ({ r with role := some r.pointer.ident }, some r.pointer.ident) := by
  simp only [assignRole, h]

theorem assignRole_of_roleFinish (h : r.marker = .roleFinish)
    : assignRole openRole r = ({ r with role := openRole }, none) := by
  simp only [assignRole, h]

theorem assignRoles_eq (rs : List Record) : assignRoles rs = labelled none rs := by
  have hgo (openRole : Option String) (rs done : List Record)
      : assignRoles.go openRole rs done = done.reverse ++ labelled openRole rs := by
    induction rs generalizing openRole done with
    | nil => simp [assignRoles.go, labelled]
    | cons r rs ih => simp [assignRoles.go, labelled, ih]
  rw [assignRoles, hgo, List.reverse_nil, List.nil_append]

theorem labelled_append (openRole : Option String) (rs more : List Record)
    : labelled openRole (rs ++ more)
        = labelled openRole rs ++ labelled (openAfter openRole rs) more := by
  induction rs generalizing openRole with
  | nil => rfl
  | cons r rs ih => rw [List.cons_append, labelled, ih, labelled, List.cons_append]; rfl

@[simp] theorem map_bare_labelled : (labelled openRole rs).map Record.bare = rs.map Record.bare := by
  induction rs generalizing openRole with
  | nil => rfl
  | cons r rs ih => rw [labelled, List.map_cons, bare_assignRole, ih, List.map_cons]

theorem map_marker_eq_of_map_bare {rs more : List Record}
    (h : rs.map Record.bare = more.map Record.bare)
    : rs.map Record.marker = more.map Record.marker := by
  have hmap (rs : List Record) : rs.map Record.marker = (rs.map Record.bare).map Record.marker := by
    rw [List.map_map]
    rfl
  rw [hmap rs, h, ← hmap]

theorem isSettled_labelled : IsSettled (labelled openRole rs) i ↔ IsSettled rs i := by
  unfold IsSettled
  rw [map_marker_eq_of_map_bare map_bare_labelled]

theorem IsSettled.of_cons (h : IsSettled (r :: rs) (i + 1)) (hstart : r.marker ≠ .roleStart)
    (hfinish : r.marker ≠ .roleFinish)
    : IsSettled rs i := by
  obtain ⟨j, hj, hmarker⟩ | ⟨j, hj, hmarker⟩ := h
  . cases j with
    | zero => exact absurd (Option.some.inj hmarker) hstart
    | succ j => exact .inl ⟨j, Nat.le_of_succ_le_succ hj, hmarker⟩
  . cases j with
    | zero => exact absurd (Option.some.inj hmarker) hfinish
    | succ j => exact .inr ⟨j, Nat.lt_of_succ_lt_succ hj, hmarker⟩

theorem marker_of_isSettled_zero (h : IsSettled (r :: rs) 0) : r.marker = .roleStart := by
  obtain ⟨j, hj, hmarker⟩ | ⟨j, hj, _⟩ := h
  . cases Nat.le_zero.mp hj
    exact Option.some.inj hmarker
  . exact absurd hj (Nat.not_lt_zero j)

/-- Records that roles are assigned to from different beginnings have the same role as soon as one
was started or finished among them. -/
theorem getElem?_labelled_eq (openRole other : Option String) (h : IsSettled rs i)
    : (labelled openRole rs)[i]? = (labelled other rs)[i]? := by
  induction rs generalizing openRole other i with
  | nil => rfl
  | cons r rs ih =>
    simp only [labelled]
    cases i with
    | zero =>
      have hstart := marker_of_isSettled_zero h
      rw [assignRole_of_roleStart hstart, assignRole_of_roleStart hstart]
    | succ i =>
      rw [List.getElem?_cons_succ, List.getElem?_cons_succ]
      -- behind a start or a finish the same role is open on both sides
      by_cases hstart : r.marker = .roleStart
      . rw [assignRole_of_roleStart hstart, assignRole_of_roleStart hstart]
      . by_cases hfinish : r.marker = .roleFinish
        . rw [assignRole_of_roleFinish hfinish, assignRole_of_roleFinish hfinish]
        . exact ih _ _ (h.of_cons hstart hfinish)

end

/-! What is read of a line -/

theorem exists_of_bind_eq_ok {x : Except ε α} {f : α → Except ε β} {b : β}
    (h : (x >>= f) = .ok b)
    : ∃ a, x = .ok a ∧ f a = .ok b := by
  cases x with
  | error e => contradiction
  | ok a => exact ⟨a, rfl, h⟩

theorem role_of_ofJson {v : Json.Value} {r : Record} (h : Record.ofJson v = .ok r)
    : r.role = none := by
  unfold Record.ofJson at h
  split at h
  . obtain ⟨time, _, h⟩ := exists_of_bind_eq_ok h
    obtain ⟨deployment, _, h⟩ := exists_of_bind_eq_ok h
    obtain ⟨pointer, _, h⟩ := exists_of_bind_eq_ok h
    obtain ⟨marker, _, h⟩ := exists_of_bind_eq_ok h
    rw [← Except.ok.inj h]
  . contradiction

theorem role_of_ofLine {line : List Char} {r : Record}
    (h : (Record.ofLine line).toOption = some r)
    : r.role = none := by
  unfold Record.ofLine at h
  split at h
  . next v _ =>
    cases hv : Record.ofJson v with
    | ok record =>
      rw [hv] at h
      rw [← Option.some.inj h]
      exact role_of_ofJson hv
    | error e =>
      rw [hv] at h
      contradiction
  . contradiction

theorem map_bare_filterMap {f : α → Option Record} (h : ∀ a r, f a = some r → r.role = none)
    (l : List α)
    : (l.filterMap f).map Record.bare = l.filterMap f := by
  have hbare : ∀ r ∈ l.filterMap f, r.bare = r := by
    intro r hr
    obtain ⟨a, _, ha⟩ := List.mem_filterMap.mp hr
    unfold Record.bare
    rw [← h a r ha]
  conv => rhs; rw [← List.map_id (l.filterMap f)]
  exact List.map_congr_left hbare

end RangeTail.Index
