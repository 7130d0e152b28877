import Mathlib.Data.List.Induction
import RangeTail.Index.Trail

/-!
This module contains the theory of the trails of a role. Every place of a trail holds the last
record that was put there, and a record is put in its place if it names the role or stands while the
role is open.
-/

namespace RangeTail.Index

/-! Entries by key -/

/-- Entries in the order of their keys, which all are different. -/
def SortedKeys (entries : List (String × α)) : Prop :=
  entries.Pairwise fun a b => a.1 < b.1

section

variable {key k : String} {v w : α} {entries : List (String × α)} {p : String × α}

theorem lookup_cons_eq_ite (k key : String) (v : α) (entries : List (String × α))
    : ((key, v) :: entries).lookup k = if k = key then some v else entries.lookup k := by
  rw [List.lookup_cons]
  by_cases h : k = key
  . rw [if_pos h, beq_iff_eq.mpr h]
  . rw [if_neg h, beq_eq_false_iff_ne.mpr h]

theorem lookup_putSorted (key : String) (v : α) (entries : List (String × α)) (k : String)
    : (putSorted key v entries).lookup k = if k = key then some v else entries.lookup k := by
  induction entries with
  | nil => rw [putSorted, lookup_cons_eq_ite]
  | cons p entries ih =>
    obtain ⟨first, w⟩ := p
    unfold putSorted
    by_cases heq : key = first
    . subst heq
      rw [if_pos rfl, lookup_cons_eq_ite, lookup_cons_eq_ite]
      split <;> rfl
    . rw [if_neg heq]
      split
      . rw [lookup_cons_eq_ite]
      . rw [lookup_cons_eq_ite, lookup_cons_eq_ite, ih]
        by_cases hk : k = key
        . have hne : k ≠ first := hk ▸ heq
          rw [if_neg hne, if_pos hk, if_pos hk]
        . rw [if_neg hk, if_neg hk]

theorem mem_of_mem_putSorted (h : p ∈ putSorted key v entries) : p = (key, v) ∨ p ∈ entries := by
  induction entries with
  | nil => exact .inl (List.mem_singleton.mp h)
  | cons q entries ih =>
    obtain ⟨first, w⟩ := q
    unfold putSorted at h
    split at h
    . next heq =>
      obtain rfl | h := List.mem_cons.mp h
      . exact .inl (by rw [heq])
      . exact .inr (List.mem_cons_of_mem _ h)
    . split at h
      . exact List.mem_cons.mp h
      . obtain rfl | h := List.mem_cons.mp h
        . exact .inr List.mem_cons_self
        . exact (ih h).imp_right (List.mem_cons_of_mem _)

theorem SortedKeys.putSorted (h : SortedKeys entries) : SortedKeys (putSorted key v entries) := by
  induction entries with
  | nil => exact List.pairwise_singleton _ _
  | cons q entries ih =>
    obtain ⟨first, w⟩ := q
    obtain ⟨hfirst, hrest⟩ := List.pairwise_cons.mp h
    unfold Index.putSorted
    split
    . next heq =>
      subst heq
      exact List.pairwise_cons.mpr ⟨hfirst, hrest⟩
    . next hne =>
      split
      . next hlt =>
        refine List.pairwise_cons.mpr ⟨?_, h⟩
        intro p hp
        obtain rfl | hp := List.mem_cons.mp hp
        . exact hlt
        . exact String.lt_trans hlt (hfirst p hp)
      . next hnlt =>
        have hlt : first < key := by
          by_contra hnot
          exact hne (String.le_antisymm (String.not_lt.mp hnot) (String.not_lt.mp hnlt))
        refine List.pairwise_cons.mpr ⟨?_, ih hrest⟩
        intro p hp
        obtain rfl | hp := mem_of_mem_putSorted hp
        . exact hlt
        . exact hfirst p hp

/-- An entry is what is found under its key. -/
theorem SortedKeys.mem_iff (h : SortedKeys entries)
    : (k, v) ∈ entries ↔ entries.lookup k = some v := by
  induction entries with
  | nil => simp
  | cons q entries ih =>
    obtain ⟨first, w⟩ := q
    obtain ⟨hfirst, hrest⟩ := List.pairwise_cons.mp h
    rw [lookup_cons_eq_ite, List.mem_cons, ih hrest]
    by_cases hk : k = first
    . subst hk
      have hnone : (k, v) ∉ entries := fun hmem => String.lt_irrefl k (hfirst _ hmem)
      rw [if_pos rfl, ← ih hrest]
      simp [hnone, eq_comm]
    . rw [if_neg hk]
      simp [hk]

end

/-! The places of a trail -/

/-- A place of a trail. -/
inductive Slot where
  | start
  | finish
  | external (name : String)
  deriving DecidableEq, Repr

/-- The place that a record has in the trail of its deployment. -/
def Record.slot? (r : Record) : Option Slot :=
  match r.marker with
  | .roleStart => some .start
  | .roleFinish => some .finish
  | .externalLog => some (.external r.pointer.ident)
  | _ => none

namespace Trail

/-- The record in a place. -/
def held (t : Trail) : Slot → Option Record
  | .start => t.start
  | .finish => t.finish
  | .external name => t.externals.lookup name

@[simp] theorem held_empty (slot : Slot) : held {} slot = none := by
  cases slot <;> rfl

theorem held_add (t : Trail) (r : Record) (slot : Slot)
    : (t.add r).held slot = if r.slot? = some slot then some r else t.held slot := by
  unfold add Record.slot?
  cases r.marker <;> cases slot <;> simp [held, lookup_putSorted, eq_comm]

end Trail

theorem SortedKeys.add {t : Trail} (h : SortedKeys t.externals) (r : Record)
    : SortedKeys (t.add r).externals := by
  unfold Trail.add
  cases r.marker
  case externalLog => exact h.putSorted
  all_goals exact h

/-- Whether a role is open behind records: it was started, and no role was finished since. -/
def IsOpen (role : String) (rs : List Record) : Prop :=
  ∃ front s back, rs = front ++ s :: back
    ∧ s.marker = .roleStart
    ∧ s.pointer.ident = role
    ∧ ∀ x ∈ back, x.marker ≠ .roleFinish

/-- Whether a record counts for a role behind others: it names the role, or the role is open. -/
def Counts (role : String) (before : List Record) (r : Record) : Prop :=
  r.pointer.ident = role ∨ IsOpen role before

/-- Whether a record is put in a place of the trail of a deployment. -/
structure PutsAt (role : String) (before : List Record) (r : Record) (d : String) (slot : Slot)
    : Prop where
  counts : Counts role before r
  deployment : r.deployment = d
  slot : r.slot? = some slot

namespace Trails

variable {t : Trails} {r : Record} {role d : String} {slot : Slot}

/-- The record in a place of the trail of a deployment. -/
def held (t : Trails) (d : String) (slot : Slot) : Option Record :=
  (t.byDeployment.lookup d).bind (·.held slot)

theorem held_add_of_counts (h : r.pointer.ident = role ∨ t.open_ = true)
    : (t.add role r).held d slot
        = if r.deployment = d ∧ r.slot? = some slot then some r else t.held d slot := by
  unfold add held
  rw [if_pos h]
  dsimp only
  rw [lookup_putSorted]
  by_cases hd : d = r.deployment
  . -- a deployment without a trail has one with empty places
    subst hd
    rw [if_pos rfl, Option.bind_some, Trail.held_add]
    simp only [true_and]
    congr 1
    cases t.byDeployment.lookup r.deployment with
    | some trail => rfl
    | none => exact Trail.held_empty slot
  . rw [if_neg hd, if_neg fun h => hd h.1.symm]

theorem add_of_not_counts (h : ¬ (r.pointer.ident = role ∨ t.open_ = true)) : t.add role r = t :=
  if_neg h

theorem open_add (t : Trails) (role : String) (r : Record)
    : (t.add role r).open_ = true ↔
        (r.marker = .roleStart ∧ r.pointer.ident = role)
          ∨ (r.marker ≠ .roleFinish ∧ t.open_ = true) := by
  by_cases h : r.pointer.ident = role ∨ t.open_ = true
  . unfold add
    rw [if_pos h]
    dsimp only
    split
    . next hmarker => simp [hmarker, h]
    . next hmarker => simp [hmarker]
    . next hstart hfinish =>
      have hstart : r.marker ≠ .roleStart := hstart
      have hfinish : r.marker ≠ .roleFinish := hfinish
      simp [hstart, hfinish]
  . rw [add_of_not_counts h]
    simp only [not_or] at h
    simp [h]

/-- Whether there is one trail for a deployment, and one record in it for a log of another tool. -/
structure IsSorted (t : Trails) : Prop where
  deployments : SortedKeys t.byDeployment
  externals : ∀ p ∈ t.byDeployment, SortedKeys p.2.externals

theorem isSorted_empty : IsSorted {} where
  deployments := List.Pairwise.nil
  externals _ h := absurd h List.not_mem_nil

theorem IsSorted.add (h : t.IsSorted) (role : String) (r : Record) : (t.add role r).IsSorted := by
  by_cases hcounts : r.pointer.ident = role ∨ t.open_ = true
  . have hold : SortedKeys ((t.byDeployment.lookup r.deployment).getD {}).externals := by
      cases hlookup : t.byDeployment.lookup r.deployment with
      | some trail => exact h.externals _ (h.deployments.mem_iff.mpr hlookup)
      | none => exact List.Pairwise.nil
    unfold Trails.add
    rw [if_pos hcounts]
    constructor
    case deployments => exact h.deployments.putSorted
    case externals =>
      intro p hp
      obtain rfl | hp := mem_of_mem_putSorted hp
      . exact hold.add r
      . exact h.externals p hp
  . rwa [add_of_not_counts hcounts]

end Trails

/-- The trails of a role behind records. -/
def trailsOf (role : String) (rs : List Record) : Trails :=
  rs.foldl (Trails.add role) {}

section

variable {role d : String} {rs before : List Record} {r x : Record} {slot : Slot}

theorem trailsOf_concat (role : String) (rs : List Record) (r : Record)
    : trailsOf role (rs ++ [r]) = (trailsOf role rs).add role r := by
  rw [trailsOf, List.foldl_append]
  rfl

theorem concat_eq_append_cons {front back : List Record}
    : rs ++ [x] = front ++ r :: back ↔
        (back = [] ∧ rs = front ∧ x = r) ∨ ∃ mid, back = mid ++ [x] ∧ rs = front ++ r :: mid := by
  constructor
  . intro h
    obtain rfl | ⟨mid, last, rfl⟩ := List.eq_nil_or_concat back
    . obtain ⟨hrs, hx⟩ := List.append_inj' h rfl
      exact .inl ⟨rfl, hrs, List.singleton_inj.mp hx⟩
    . rw [List.concat_eq_append, ← List.cons_append, ← List.append_assoc] at h
      obtain ⟨hrs, hx⟩ := List.append_inj' h rfl
      exact .inr ⟨mid, by rw [List.concat_eq_append, List.singleton_inj.mp hx], hrs⟩
  . rintro (⟨rfl, rfl, rfl⟩ | ⟨mid, rfl, rfl⟩)
    . rfl
    . rw [List.append_assoc, List.cons_append]

theorem isOpen_concat
    : IsOpen role (rs ++ [r]) ↔
        (r.marker = .roleStart ∧ r.pointer.ident = role)
          ∨ (r.marker ≠ .roleFinish ∧ IsOpen role rs) := by
  constructor
  . rintro ⟨front, s, back, heq, hstart, hrole, hback⟩
    obtain ⟨rfl, rfl, rfl⟩ | ⟨mid, rfl, rfl⟩ := concat_eq_append_cons.mp heq
    . exact .inl ⟨hstart, hrole⟩
    . refine .inr ⟨hback r (by simp), front, s, mid, rfl, hstart, hrole, ?_⟩
      intro x hx
      exact hback x (List.mem_append_left _ hx)
  . rintro (⟨hstart, hrole⟩ | ⟨hfinish, front, s, back, rfl, hstart, hrole, hback⟩)
    . exact ⟨rs, r, [], rfl, hstart, hrole, nofun⟩
    . refine ⟨front, s, back ++ [r], by simp, hstart, hrole, ?_⟩
      intro x hx
      obtain hx | hx := List.mem_append.mp hx
      . exact hback x hx
      . rwa [List.mem_singleton.mp hx]

theorem open_iff (role : String) (rs : List Record)
    : (trailsOf role rs).open_ = true ↔ IsOpen role rs := by
  induction rs using List.reverseRecOn with
  | nil =>
    constructor
    . nofun
    . rintro ⟨front, s, back, heq, _⟩
      simp at heq
  | append_singleton rs r ih => rw [trailsOf_concat, Trails.open_add, ih, isOpen_concat]

theorem held_of_putsAt (h : PutsAt role rs r d slot)
    : (trailsOf role (rs ++ [r])).held d slot = some r := by
  have hcounts := h.counts
  rw [Counts, ← open_iff] at hcounts
  rw [trailsOf_concat, Trails.held_add_of_counts hcounts, if_pos ⟨h.deployment, h.slot⟩]

theorem held_of_not_putsAt (h : ¬ PutsAt role rs r d slot)
    : (trailsOf role (rs ++ [r])).held d slot = (trailsOf role rs).held d slot := by
  rw [trailsOf_concat]
  by_cases hcounts : r.pointer.ident = role ∨ (trailsOf role rs).open_ = true
  . rw [Trails.held_add_of_counts hcounts, if_neg]
    rintro ⟨hd, hslot⟩
    rw [open_iff] at hcounts
    exact h ⟨hcounts, hd, hslot⟩
  . rw [Trails.add_of_not_counts hcounts]

theorem isSorted_trailsOf (role : String) (rs : List Record) : (trailsOf role rs).IsSorted := by
  induction rs using List.reverseRecOn with
  | nil => exact Trails.isSorted_empty
  | append_singleton rs r ih =>
    rw [trailsOf_concat]
    exact ih.add role r

theorem held_eq_of_mem {trail : Trail} (h : (d, trail) ∈ roleDeployments rs role) (slot : Slot)
    : trail.held slot = (trailsOf role rs).held d slot := by
  have hlookup := (isSorted_trailsOf role rs).deployments.mem_iff.mp h
  rw [Trails.held, hlookup, Option.bind_some]

theorem exists_mem_of_held (h : (trailsOf role rs).held d slot = some r)
    : ∃ trail, (d, trail) ∈ roleDeployments rs role ∧ trail.held slot = some r := by
  obtain ⟨trail, hlookup, hheld⟩ := Option.bind_eq_some_iff.mp h
  exact ⟨trail, (isSorted_trailsOf role rs).deployments.mem_iff.mpr hlookup, hheld⟩

theorem mem_externals_iff {trail : Trail} (h : (d, trail) ∈ roleDeployments rs role) {name : String}
    : (name, r) ∈ trail.externals ↔ trail.held (.external name) = some r :=
  ((isSorted_trailsOf role rs).externals _ h).mem_iff

/-- What a place holds is the last of the records that are put there. -/
theorem held_iff
    : (trailsOf role rs).held d slot = some r ↔
        ∃ before after, rs = before ++ r :: after
          ∧ PutsAt role before r d slot
          ∧ ∀ mid s rest, after = mid ++ s :: rest →
            ¬ PutsAt role (before ++ r :: mid) s d slot := by
  -- the last of the records replaces what the place held, or is not put there
  induction rs using List.reverseRecOn with
  | nil =>
    constructor
    . intro h
      cases h
    . rintro ⟨before, after, heq, _⟩
      simp at heq
  | append_singleton rs x ih =>
    by_cases h : PutsAt role rs x d slot
    . rw [held_of_putsAt h]
      constructor
      . intro hx
        obtain rfl := Option.some.inj hx
        exact ⟨rs, [], rfl, h, fun mid s rest heq => by simp at heq⟩
      . rintro ⟨before, after, heq, _, hlast⟩
        obtain ⟨_, _, rfl⟩ | ⟨mid, rfl, rfl⟩ := concat_eq_append_cons.mp heq
        . rfl
        . exact absurd h (hlast mid x [] rfl)
    . rw [held_of_not_putsAt h, ih]
      constructor
      . rintro ⟨before, after, rfl, hputs, hlast⟩
        refine ⟨before, after ++ [x], by simp, hputs, ?_⟩
        intro mid s rest heq
        obtain ⟨rfl, rfl, rfl⟩ | ⟨rest, rfl, rfl⟩ := concat_eq_append_cons.mp heq
        . exact h
        . exact hlast mid s rest rfl
      . rintro ⟨before, after, heq, hputs, hlast⟩
        obtain ⟨rfl, rfl, rfl⟩ | ⟨mid, rfl, rfl⟩ := concat_eq_append_cons.mp heq
        . exact absurd hputs h
        . refine ⟨before, mid, rfl, hputs, ?_⟩
          rintro front s rest rfl
          exact hlast front s (rest ++ [x]) (by simp)

end

end RangeTail.Index
