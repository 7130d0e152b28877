import RangeTail.Proofs.Index.Opening

/-!
This module contains what closes a role in an index. The first finish behind its start does, whatever
that one names, so that a role is not open up to its own finish where another one comes before.
-/

namespace RangeTail.Index

/-- A role is started by record `i`, and `j` is the first record behind it that finishes this role.
No role is started in between. -/
structure IsDeployed (rs : List Record) (name : String) (i j : Nat) : Prop where
  lt : i < j
  start : Happens rs i .roleStart name
  finish : Happens rs j .roleFinish name
  first : ∀ k, i < k → k < j → ¬ Happens rs k .roleFinish name
  alone : ∀ k other, i < k → k < j → ¬ Happens rs k .roleStart other

/-- Whether a role was finished between two records. -/
def FinishedBetween (rs : List Record) (i k : Nat) : Prop :=
  ∃ m other, i < m ∧ m < k ∧ Happens rs m .roleFinish other

section

variable {rs : List Record} {r : Record} {name other : String} {i j k opening : Nat}
variable {marker marker' : Marker}

theorem Happens.eq (h : Happens rs i marker name) (h' : Happens rs i marker' other)
    : marker = marker' ∧ name = other := by
  obtain ⟨r, hr, hmarker, hname⟩ := h
  rw [happens_iff hr] at h'
  exact ⟨hmarker.symm.trans h'.1, hname.symm.trans h'.2⟩

namespace IsDeployed

theorem not_start (h : IsDeployed rs name i j) (hlt : i < k) (hle : k ≤ j)
    : ¬ Happens rs k .roleStart other := by
  obtain hlt' | rfl := Nat.lt_or_eq_of_le hle
  . exact h.alone k other hlt hlt'
  . intro hstart
    have hmarker := (hstart.eq h.finish).1
    contradiction

/-- A record from the start through the finish has the role from the start or has none. -/
theorem openedAt_iff (h : IsDeployed rs name i j) (hle : i ≤ k) (hle' : k ≤ j)
    : OpenedAt rs other opening k ↔ (opening = i ∧ other = name) ∧ ¬ FinishedBetween rs i k := by
  constructor
  . intro hopened
    -- a start in front of `i` is not the last one, and there is none behind it
    have heq : opening = i := by
      by_contra hne
      cases Nat.lt_or_gt_of_ne hne with
      | inl hlt => exact hopened.latest i name hlt hle h.start
      | inr hlt => exact h.not_start hlt (Nat.le_trans hopened.le hle') hopened.start
    subst heq
    refine ⟨⟨rfl, (hopened.start.eq h.start).2⟩, ?_⟩
    rintro ⟨m, named, hlt, hlt', hfinish⟩
    exact hopened.unfinished m named (Nat.le_of_lt hlt) hlt' hfinish
  . rintro ⟨⟨rfl, rfl⟩, hunfinished⟩
    refine ⟨hle, h.start, ?_, ?_⟩
    . intro m named hlt hmle
      exact h.not_start hlt (Nat.le_trans hmle hle')
    . intro m named hmle hlt hfinish
      obtain hlt' | rfl := Nat.lt_or_eq_of_le hmle
      . exact hunfinished ⟨m, named, hlt', hlt, hfinish⟩
      . have hmarker := (hfinish.eq h.start).1
        contradiction

theorem not_finishedBetween_of_own (h : IsDeployed rs name i j) (hle : k ≤ j)
    (hown : ∀ m named, i < m → m < j → named ≠ name → ¬ Happens rs m .roleFinish named)
    : ¬ FinishedBetween rs i k := by
  rintro ⟨m, named, hlt, hlt', hfinish⟩
  have hmlt : m < j := Nat.lt_of_lt_of_le hlt' hle
  by_cases hnamed : named = name
  . subst hnamed
    exact h.first m hlt hmlt hfinish
  . exact hown m named hlt hmlt hnamed hfinish

end IsDeployed

theorem role_iff_of_isDeployed (h : IsDeployed (labelled none rs) name i j) (hle : i ≤ k)
    (hle' : k ≤ j) (hr : (labelled none rs)[k]? = some r)
    : r.role = some other ↔ other = name ∧ ¬ FinishedBetween (labelled none rs) i k := by
  rw [role_labelled_iff hr]
  simp only [h.openedAt_iff hle hle', and_assoc, exists_eq_left]

end

/-- A record from the start of a role through its own finish has this role up to the first finish of
any role behind the start, that one included, and no role from there on. So they all have it if and
only if no finish of another role stands in between. -/
theorem stays_open_iff {text : List Char} {fromFileStart : Bool} {name : String} {i j : Nat}
    (h : IsDeployed (parse text fromFileStart) name i j)
    : (∀ k r, i ≤ k → k ≤ j → (parse text fromFileStart)[k]? = some r →
          (¬ FinishedBetween (parse text fromFileStart) i k → r.role = some name)
            ∧ (FinishedBetween (parse text fromFileStart) i k → r.role = none))
        ∧ ((∀ k r, i ≤ k → k ≤ j → (parse text fromFileStart)[k]? = some r → r.role = some name)
            ↔
          ∀ m other, i < m → m < j → other ≠ name →
            ¬ Happens (parse text fromFileStart) m .roleFinish other) := by
  -- what the lines are does not matter, only that their records are labelled from no open role on
  rw [parse, assignRoles_eq] at h ⊢
  generalize (wholeLines text fromFileStart).filterMap _ = rs at h ⊢
  constructor
  . intro k r hle hle' hr
    constructor
    . intro hopen
      exact (role_iff_of_isDeployed h hle hle' hr).mpr ⟨rfl, hopen⟩
    . intro hfinished
      rw [Option.eq_none_iff_forall_ne_some]
      intro other hrole
      exact ((role_iff_of_isDeployed h hle hle' hr).mp hrole).2 hfinished
  . constructor
    . intro hall m other hlt hlt' _ hfinish
      obtain ⟨r, hr, _⟩ := h.finish
      have hle := Nat.le_of_lt h.lt
      have hrole := hall j r hle (Nat.le_refl j) hr
      exact ((role_iff_of_isDeployed h hle (Nat.le_refl j) hr).mp hrole).2
        ⟨m, other, hlt, hlt', hfinish⟩
    . intro hown k r hle hle' hr
      rw [role_iff_of_isDeployed h hle hle' hr]
      exact ⟨rfl, h.not_finishedBetween_of_own hle' hown⟩

/-- An index in which another role is finished before the one that is open. -/
def interruptedIndex : String :=
  "[\"t1\",\"d1\",\x7b\"variant\":\"Role\",\"fields\":[\"web\",\"s1\",0]\x7d,\"RoleStart\"]\n"
    ++ "[\"t2\",\"d2\",\x7b\"variant\":\"Role\",\"fields\":[\"db\",\"s2\",0]\x7d,\"RoleFinish\"]\n"
    ++ "[\"t3\",\"d1\",\x7b\"variant\":\"Role\",\"fields\":[\"web\",\"s1\",9]\x7d,\"RoleFinish\"]\n"

theorem parse_interruptedIndex
    : parse interruptedIndex.toList true
        = [⟨"t1", "d1", .role "web" "s1" 0, .roleStart, some "web"⟩,
            ⟨"t2", "d2", .role "db" "s2" 0, .roleFinish, some "web"⟩,
            ⟨"t3", "d1", .role "web" "s1" 9, .roleFinish, none⟩] := by
  decide +kernel

theorem isDeployed_interruptedIndex
    : IsDeployed (parse interruptedIndex.toList true) "web" 0 2 := by
  rw [parse_interruptedIndex]
  refine ⟨by decide, ⟨_, rfl, rfl, rfl⟩, ⟨_, rfl, rfl, rfl⟩, ?_, ?_⟩
  . intro k hlt hlt'
    obtain rfl : k = 1 := by omega
    rw [happens_iff rfl]
    decide
  . intro k other hlt hlt'
    obtain rfl : k = 1 := by omega
    rw [happens_iff rfl]
    simp

theorem stays_open_iff_interrupted
    : IsDeployed (parse interruptedIndex.toList true) "web" 0 2
        ∧ Happens (parse interruptedIndex.toList true) 1 .roleFinish "db"
        ∧ ¬ ∀ k r, 0 ≤ k → k ≤ 2 → (parse interruptedIndex.toList true)[k]? = some r
          → r.role = some "web" := by
  have hfinish : Happens (parse interruptedIndex.toList true) 1 .roleFinish "db" := by
    rw [parse_interruptedIndex]
    exact ⟨_, rfl, rfl, rfl⟩
  refine ⟨isDeployed_interruptedIndex, hfinish, ?_⟩
  rw [(stays_open_iff isDeployed_interruptedIndex).2]
  intro hown
  exact hown 1 "db" (by decide) (by decide) (by decide) hfinish

theorem other_finish_closes
    : ¬ ∀ (text : List Char) (fromFileStart : Bool) (name : String) (i j : Nat),
        IsDeployed (parse text fromFileStart) name i j →
          ∀ k r, i ≤ k → k ≤ j → (parse text fromFileStart)[k]? = some r → r.role = some name := by
  intro h
  have hrole := h _ _ _ _ _ isDeployed_interruptedIndex 2
  rw [parse_interruptedIndex] at hrole
  have hweb := hrole _ (by decide) (by decide) rfl
  contradiction

end RangeTail.Index
