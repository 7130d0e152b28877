import Mathlib.Tactic.IntervalCases
import RangeTail.Proofs.Index.Closing
import RangeTail.Proofs.Index.Trails

/-!
This module contains what the trails of a role are in an index whose roles are deployed one after
the other. There the records that count for a role are those that name it and those that it was
given to, so that the trails hold exactly the last record of each kind in each deployment.
-/

namespace RangeTail.Index

/-- Whether a record has to do with a role: it names the role or belongs to it. -/
def Record.Concerns (r : Record) (role : String) : Prop :=
  r.pointer.ident = role ∨ r.role = some role

/-- Whether roles are deployed one after the other: each one that is started is finished before any
other is started or finished, and none is finished otherwise. -/
structure IsSequential (rs : List Record) : Prop where
  finished : ∀ i name, Happens rs i .roleStart name →
    ∃ j, IsDeployed rs name i j ∧ ¬ FinishedBetween rs i j
  started : ∀ j name, Happens rs j .roleFinish name →
    ∃ i, IsDeployed rs name i j ∧ ¬ FinishedBetween rs i j

/-- The last of the records that something is true of. -/
def lastThat (p : Record → Prop) [DecidablePred p] (rs : List Record) : Option Record :=
  (rs.filter p).getLast?

/-- Whether a trail holds the last records about a role in a deployment. -/
structure Trail.IsExact (t : Trail) (rs : List Record) (role d : String) : Prop where
  start : t.start
    = lastThat (fun r => r.deployment = d ∧ r.marker = .roleStart ∧ r.pointer.ident = role) rs
  finish : t.finish
    = lastThat (fun r => r.deployment = d ∧ r.marker = .roleFinish ∧ r.pointer.ident = role) rs
  /-- There is one record for a name. -/
  sorted : SortedKeys t.externals
  externals : ∀ name r, (name, r) ∈ t.externals ↔
    lastThat (fun r => r.deployment = d ∧ r.marker = .externalLog ∧ r.pointer.ident = name
      ∧ (r.role = some role ∨ name = role)) rs = some r

section

variable {rs before after : List Record} {r : Record} {role d name : String} {i j : Nat}
variable {slot : Slot} {marker : Marker}

theorem isDeployed_of_quiet (hlt : i < j) (hstart : Happens rs i .roleStart name)
    (hfinish : Happens rs j .roleFinish name)
    (hquiet : ∀ r ∈ (rs.take j).drop (i + 1), r.marker ≠ .roleStart ∧ r.marker ≠ .roleFinish)
    : IsDeployed rs name i j ∧ ¬ FinishedBetween rs i j := by
  have hbetween {k : Nat} {other : String} {marker : Marker} (hlt : i < k) (hlt' : k < j)
      (h : Happens rs k marker other)
      : marker ≠ .roleStart ∧ marker ≠ .roleFinish := by
    obtain ⟨r, hr, rfl, _⟩ := h
    obtain ⟨m, rfl⟩ := Nat.exists_eq_add_of_lt hlt
    apply hquiet r
    apply List.mem_of_getElem? (i := m)
    rw [List.getElem?_drop, List.getElem?_take_of_lt (by omega), ← hr]
    congr 1
    omega
  refine ⟨⟨hlt, hstart, hfinish, ?_, ?_⟩, ?_⟩
  . intro k hlt hlt' h
    exact (hbetween hlt hlt' h).2 rfl
  . intro k other hlt hlt' h
    exact (hbetween hlt hlt' h).1 rfl
  . rintro ⟨k, other, hlt, hlt', h⟩
    exact (hbetween hlt hlt' h).2 rfl

/-! Records that count -/

theorem happens_append_of_lt (h : i < before.length)
    : Happens (before ++ after) i marker name ↔ Happens before i marker name := by
  unfold Happens
  rw [List.getElem?_append_left h]

theorem lt_of_happens (h : Happens rs i marker name) : i < rs.length := by
  obtain ⟨r, hr, _⟩ := h
  exact (List.getElem?_eq_some_iff.mp hr).1

/-- A role is open behind records if one of them starts it and no later one finishes a role. -/
theorem isOpen_iff_happens
    : IsOpen role before ↔ ∃ j, Happens before j .roleStart role
        ∧ ∀ k other, j < k → ¬ Happens before k .roleFinish other := by
  constructor
  . rintro ⟨front, s, back, rfl, hstart, hrole, hback⟩
    refine ⟨front.length, ⟨s, by simp, hstart, hrole⟩, ?_⟩
    rintro k other hlt ⟨x, hx, hfinish, _⟩
    obtain ⟨m, rfl⟩ := Nat.exists_eq_add_of_lt hlt
    rw [List.getElem?_append_right (by omega), Nat.add_assoc, Nat.add_sub_cancel_left,
      List.getElem?_cons_succ] at hx
    exact hback x (List.mem_of_getElem? hx) hfinish
  . rintro ⟨j, ⟨s, hs, hstart, hrole⟩, hlater⟩
    obtain ⟨hj, rfl⟩ := List.getElem?_eq_some_iff.mp hs
    refine ⟨before.take j, before[j], before.drop (j + 1), ?_, hstart, hrole, ?_⟩
    . rw [List.getElem_cons_drop, List.take_append_drop]
    . intro x hx hfinish
      obtain ⟨m, hm⟩ := List.getElem?_of_mem hx
      rw [List.getElem?_drop] at hm
      exact hlater (j + 1 + m) x.pointer.ident (by omega) ⟨x, hm, hfinish, rfl⟩

/-- In front of a record the role asked for is open if it is the one that the record was given, but
for the start of a role, which names it. -/
theorem counts_iff_concerns (h : IsSequential (labelled none rs))
    (heq : labelled none rs = before ++ r :: after)
    : Counts role before r ↔ r.Concerns role := by
  have hr : (labelled none rs)[before.length]? = some r := by
    rw [heq]
    simp
  have hfront {k : Nat} {marker : Marker} {name : String} (hlt : k < before.length)
      : Happens (labelled none rs) k marker name ↔ Happens before k marker name := by
    rw [heq, happens_append_of_lt hlt]
  unfold Counts Record.Concerns
  rw [role_labelled_iff hr, isOpen_iff_happens]
  constructor
  . rintro (hname | ⟨j, hstart, hlater⟩)
    . exact .inl hname
    . -- the role that was started is finished at the record or behind it
      have hj := lt_of_happens hstart
      obtain ⟨k, hdeployed, halone⟩ := h.finished j role ((hfront hj).mpr hstart)
      have hle : before.length ≤ k := by
        by_contra hlt
        exact hlater k role hdeployed.lt ((hfront (by omega)).mp hdeployed.finish)
      refine .inr ⟨j, (hdeployed.openedAt_iff (Nat.le_of_lt hj) hle).mpr ⟨⟨rfl, rfl⟩, ?_⟩⟩
      rintro ⟨m, other, hlt, hlt', hfinish⟩
      exact halone ⟨m, other, hlt, Nat.lt_of_lt_of_le hlt' hle, hfinish⟩
  . rintro (hname | ⟨j, hopened⟩)
    . exact .inl hname
    . obtain hlt | rfl := Nat.lt_or_eq_of_le hopened.le
      . refine .inr ⟨j, (hfront hlt).mp hopened.start, ?_⟩
        intro k other hlt hfinish
        have hk := lt_of_happens hfinish
        exact hopened.unfinished k other (Nat.le_of_lt hlt) hk ((hfront hk).mpr hfinish)
      . exact .inl ((happens_iff hr).mp hopened.start).2

/-- The start and the finish of a role concern no other role. -/
theorem concerns_iff_names (h : IsSequential (labelled none rs)) (hmem : r ∈ labelled none rs)
    (hmarker : r.marker = .roleStart ∨ r.marker = .roleFinish)
    : r.Concerns role ↔ r.pointer.ident = role := by
  constructor
  . rintro (hname | hrole)
    . exact hname
    . obtain ⟨i, hr⟩ := List.getElem?_of_mem hmem
      obtain ⟨j, hopened⟩ := (role_labelled_iff hr).mp hrole
      cases hmarker with
      | inl hstart => exact ((openedAt_of_start hr hstart).mp hopened).2
      | inr hfinish =>
        obtain ⟨k, hdeployed, _⟩ := h.started i r.pointer.ident ⟨r, hr, hfinish, rfl⟩
        have hle := Nat.le_of_lt hdeployed.lt
        exact ((hdeployed.openedAt_iff hle (Nat.le_refl i)).mp hopened).1.2.symm
  . exact .inl

/-! What the trails hold -/

theorem held_eq_lastThat {p : Record → Prop} [DecidablePred p]
    (h : ∀ before r after, rs = before ++ r :: after → (PutsAt role before r d slot ↔ p r))
    : (trailsOf role rs).held d slot = lastThat p rs := by
  induction rs using List.reverseRecOn with
  | nil => rfl
  | append_singleton rs r ih =>
    have hlast := h rs r [] rfl
    have hheld : (trailsOf role rs).held d slot = lastThat p rs := by
      apply ih
      intro before s after heq
      exact h before s (after ++ [r]) (by rw [heq, List.append_assoc, List.cons_append])
    rw [lastThat, List.filter_append]
    by_cases hp : p r
    . rw [held_of_putsAt (hlast.mpr hp)]
      simp [hp]
    . rw [held_of_not_putsAt (mt hlast.mp hp), hheld]
      simp [hp, lastThat]

theorem exists_lookup_add (t : Trails) (role : String) (r : Record) (d : String)
    : (∃ trail, (t.add role r).byDeployment.lookup d = some trail) ↔
        ((r.pointer.ident = role ∨ t.open_ = true) ∧ r.deployment = d)
          ∨ ∃ trail, t.byDeployment.lookup d = some trail := by
  by_cases h : r.pointer.ident = role ∨ t.open_ = true
  . unfold Trails.add
    rw [if_pos h]
    simp only [lookup_putSorted]
    by_cases hd : d = r.deployment
    . simp [h, hd]
    . simp [hd, Ne.symm hd]
  . rw [Trails.add_of_not_counts h]
    simp [h]

theorem exists_lookup_trailsOf_iff
    : (∃ trail, (trailsOf role rs).byDeployment.lookup d = some trail) ↔
        ∃ before r after, rs = before ++ r :: after ∧ Counts role before r ∧ r.deployment = d := by
  induction rs using List.reverseRecOn with
  | nil => simp [trailsOf]
  | append_singleton rs x ih =>
    rw [trailsOf_concat, exists_lookup_add, ih, open_iff]
    constructor
    . rintro (⟨hcounts, hd⟩ | ⟨before, r, after, rfl, hcounts, hd⟩)
      . exact ⟨rs, x, [], rfl, hcounts, hd⟩
      . exact ⟨before, r, after ++ [x], by simp, hcounts, hd⟩
    . rintro ⟨before, r, after, heq, hcounts, hd⟩
      obtain ⟨_, rfl, rfl⟩ | ⟨mid, _, rfl⟩ := concat_eq_append_cons.mp heq
      . exact .inl ⟨hcounts, hd⟩
      . exact .inr ⟨before, r, mid, rfl, hcounts, hd⟩

/-- A deployment has a trail if one of its records counts. -/
theorem exists_trail_iff
    : (∃ trail, (d, trail) ∈ roleDeployments rs role) ↔
        ∃ before r after, rs = before ++ r :: after ∧ Counts role before r ∧ r.deployment = d := by
  rw [← exists_lookup_trailsOf_iff]
  exact exists_congr fun _ => (isSorted_trailsOf role rs).deployments.mem_iff

/-- What a place of the trail of a deployment holds is the last of the records that are for it and
concern the role. -/
theorem held_eq_of_isSequential (h : IsSequential (labelled none rs)) {p : Record → Prop}
    [DecidablePred p]
    (hp : ∀ r ∈ labelled none rs,
      p r ↔ r.deployment = d ∧ r.slot? = some slot ∧ r.Concerns role)
    : (trailsOf role (labelled none rs)).held d slot = lastThat p (labelled none rs) := by
  apply held_eq_lastThat
  intro before r after heq
  have hmem : r ∈ labelled none rs := by
    rw [heq]
    simp
  rw [hp r hmem, ← counts_iff_concerns h heq]
  constructor
  . intro hputs
    exact ⟨hputs.deployment, hputs.slot, hputs.counts⟩
  . rintro ⟨hd, hslot, hcounts⟩
    exact ⟨hcounts, hd, hslot⟩

theorem slot?_eq_start : r.slot? = some .start ↔ r.marker = .roleStart := by
  unfold Record.slot?
  cases r.marker <;> simp

theorem slot?_eq_finish : r.slot? = some .finish ↔ r.marker = .roleFinish := by
  unfold Record.slot?
  cases r.marker <;> simp

theorem slot?_eq_external
    : r.slot? = some (.external name) ↔ r.marker = .externalLog ∧ r.pointer.ident = name := by
  unfold Record.slot?
  cases r.marker <;> simp

theorem isExact_of_isSequential (h : IsSequential (labelled none rs)) {trail : Trail}
    (hmem : (d, trail) ∈ roleDeployments (labelled none rs) role)
    : trail.IsExact (labelled none rs) role d := by
  constructor
  case start =>
    have hheld : trail.start = trail.held .start := rfl
    rw [hheld, held_eq_of_mem hmem]
    apply held_eq_of_isSequential h
    intro r hr
    rw [slot?_eq_start]
    refine and_congr_right fun _ => and_congr_right fun hmarker => ?_
    rw [concerns_iff_names h hr (.inl hmarker)]
  case finish =>
    have hheld : trail.finish = trail.held .finish := rfl
    rw [hheld, held_eq_of_mem hmem]
    apply held_eq_of_isSequential h
    intro r hr
    rw [slot?_eq_finish]
    refine and_congr_right fun _ => and_congr_right fun hmarker => ?_
    rw [concerns_iff_names h hr (.inr hmarker)]
  case sorted => exact (isSorted_trailsOf role _).externals _ hmem
  case externals =>
    intro name r
    rw [mem_externals_iff hmem, held_eq_of_mem hmem]
    apply Eq.congr_left
    apply held_eq_of_isSequential h
    intro r _
    rw [slot?_eq_external, and_assoc]
    refine and_congr_right fun _ => and_congr_right fun _ => and_congr_right fun hname => ?_
    rw [Record.Concerns, hname, or_comm]

end

/-- In an index whose roles are deployed one after the other, a role has a trail in the deployments
with a record that concerns it, and each trail holds the last start and the last finish of the role
and for each name the last log that was attached. -/
theorem trails_exact_of_sequential {text : List Char} {fromFileStart : Bool}
    (h : IsSequential (parse text fromFileStart)) (role : String)
    : SortedKeys (roleDeployments (parse text fromFileStart) role)
        ∧ (∀ d, (∃ trail, (d, trail) ∈ roleDeployments (parse text fromFileStart) role) ↔
          ∃ r ∈ parse text fromFileStart, r.deployment = d ∧ r.Concerns role)
        ∧ ∀ d trail, (d, trail) ∈ roleDeployments (parse text fromFileStart) role →
          trail.IsExact (parse text fromFileStart) role d := by
  -- what the lines are does not matter, only that their records are labelled from no open role on
  rw [parse, assignRoles_eq] at h ⊢
  generalize (wholeLines text fromFileStart).filterMap _ = rs at h ⊢
  refine ⟨(isSorted_trailsOf role _).deployments, ?_, fun d trail => isExact_of_isSequential h⟩
  intro d
  rw [exists_trail_iff]
  constructor
  . rintro ⟨before, r, after, heq, hcounts, hd⟩
    refine ⟨r, ?_, hd, (counts_iff_concerns h heq).mp hcounts⟩
    rw [heq]
    simp
  . rintro ⟨r, hr, hd, hconcerns⟩
    obtain ⟨before, after, heq⟩ := List.append_of_mem hr
    exact ⟨before, r, after, heq, (counts_iff_concerns h heq).mpr hconcerns, hd⟩

/-- An index of two roles, the second of which is deployed when the first is done. -/
def sequentialIndex : List Char :=
  List.flatMap String.toList [
    "[\"t1\",\"d1\",\x7b\"variant\":\"Role\",\"fields\":[\"web\",\"s1\",0]\x7d,\"RoleStart\"]\n",
    "[\"t2\",\"d1\",\x7b\"variant\":\"External\",\"fields\":[\"nginx\",3]\x7d,\"ExternalLog\"]\n",
    "[\"t3\",\"d1\",\x7b\"variant\":\"External\",\"fields\":[\"nginx\",5]\x7d,\"ExternalLog\"]\n",
    "[\"t4\",\"d1\",\x7b\"variant\":\"Role\",\"fields\":[\"web\",\"s1\",9]\x7d,\"RoleFinish\"]\n",
    "[\"t5\",\"d2\",\x7b\"variant\":\"Role\",\"fields\":[\"db\",\"s2\",0]\x7d,\"RoleStart\"]\n",
    "[\"t6\",\"d2\",\x7b\"variant\":\"Role\",\"fields\":[\"db\",\"s2\",4]\x7d,\"RoleFinish\"]\n"]

theorem parse_sequentialIndex
    : parse sequentialIndex true
        = [⟨"t1", "d1", .role "web" "s1" 0, .roleStart, some "web"⟩,
            ⟨"t2", "d1", .external "nginx" 3, .externalLog, some "web"⟩,
            ⟨"t3", "d1", .external "nginx" 5, .externalLog, some "web"⟩,
            ⟨"t4", "d1", .role "web" "s1" 9, .roleFinish, some "web"⟩,
            ⟨"t5", "d2", .role "db" "s2" 0, .roleStart, some "db"⟩,
            ⟨"t6", "d2", .role "db" "s2" 4, .roleFinish, some "db"⟩] := by
  decide +kernel

theorem isSequential_sequentialIndex : IsSequential (parse sequentialIndex true) := by
  have hweb : IsDeployed (parse sequentialIndex true) "web" 0 3
      ∧ ¬ FinishedBetween (parse sequentialIndex true) 0 3 := by
    rw [parse_sequentialIndex]
    exact isDeployed_of_quiet (by decide) ⟨_, rfl, rfl, rfl⟩ ⟨_, rfl, rfl, rfl⟩ (by decide)
  have hdb : IsDeployed (parse sequentialIndex true) "db" 4 5
      ∧ ¬ FinishedBetween (parse sequentialIndex true) 4 5 := by
    rw [parse_sequentialIndex]
    exact isDeployed_of_quiet (by decide) ⟨_, rfl, rfl, rfl⟩ ⟨_, rfl, rfl, rfl⟩ (by decide)
  constructor
  case finished =>
    rintro i name ⟨r, hr, hstart, hname⟩
    rw [parse_sequentialIndex] at hr
    have hi : i < 6 := (List.getElem?_eq_some_iff.mp hr).1
    interval_cases i <;> cases hr <;> cases hstart <;> subst hname
    . exact ⟨3, hweb⟩
    . exact ⟨5, hdb⟩
  case started =>
    rintro j name ⟨r, hr, hfinish, hname⟩
    rw [parse_sequentialIndex] at hr
    have hj : j < 6 := (List.getElem?_eq_some_iff.mp hr).1
    interval_cases j <;> cases hr <;> cases hfinish <;> subst hname
    . exact ⟨0, hweb⟩
    . exact ⟨4, hdb⟩

theorem trails_exact_of_sequential_two_roles
    : IsSequential (parse sequentialIndex true)
        ∧ (∃ trail, ("d1", trail) ∈ roleDeployments (parse sequentialIndex true) "web"
          ∧ trail.start = some ⟨"t1", "d1", .role "web" "s1" 0, .roleStart, some "web"⟩
          ∧ trail.finish = some ⟨"t4", "d1", .role "web" "s1" 9, .roleFinish, some "web"⟩
          ∧ ("nginx", ⟨"t3", "d1", .external "nginx" 5, .externalLog, some "web"⟩)
            ∈ trail.externals)
        ∧ ¬ ∃ trail, ("d2", trail) ∈ roleDeployments (parse sequentialIndex true) "web" := by
  obtain ⟨_, hkeys, hexact⟩ := trails_exact_of_sequential isSequential_sequentialIndex "web"
  rw [parse_sequentialIndex] at hkeys hexact ⊢
  refine ⟨parse_sequentialIndex ▸ isSequential_sequentialIndex, ?_, ?_⟩
  . obtain ⟨trail, hmem⟩ := (hkeys "d1").mpr ⟨_, List.mem_cons_self, rfl, .inl rfl⟩
    obtain ⟨hstart, hfinish, _, hexternals⟩ := hexact "d1" trail hmem
    refine ⟨trail, hmem, hstart, hfinish, (hexternals _ _).mpr ?_⟩
    decide
  . rw [hkeys]
    unfold Record.Concerns
    decide

end RangeTail.Index
