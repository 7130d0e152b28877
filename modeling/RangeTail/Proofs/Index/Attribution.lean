import RangeTail.Index.Listing
import RangeTail.Proofs.Index.Trails

/-!
This module contains what the trails of a role say about other roles. Only that a role is open is
remembered, and not which one, so that a role which is started before the one asked for was finished
is taken for it.
-/

namespace RangeTail.Index

/-- Whether a record belongs in the trail of a role: it names the role, or it attaches a log while
the role is being deployed. -/
def Record.IsOwn (role : String) (r : Record) : Prop :=
  r.pointer.ident = role ∨ (r.marker = .externalLog ∧ r.role = some role)

/-- Whether a trail tells about a role in a deployment and about nothing else. -/
structure Trail.IsOf (t : Trail) (role d : String) : Prop where
  start : ∀ r ∈ t.start, r.deployment = d ∧ r.marker = .roleStart ∧ r.pointer.ident = role
  finish : ∀ r ∈ t.finish, r.deployment = d ∧ r.marker = .roleFinish ∧ r.pointer.ident = role
  externals : ∀ p ∈ t.externals,
    p.2.deployment = d ∧ (p.2.pointer.ident = role ∨ p.2.role = some role)

/-- The marker of the records in a place. -/
def Slot.marker : Slot → Marker
  | .start => .roleStart
  | .finish => .roleFinish
  | .external _ => .externalLog

section

variable {role d : String} {rs : List Record} {r : Record} {slot : Slot} {trail : Trail}

theorem marker_of_slot (h : r.slot? = some slot) : r.marker = slot.marker := by
  unfold Record.slot? at h
  split at h <;> cases h <;> assumption

theorem putsAt_of_held (h : (d, trail) ∈ roleDeployments rs role)
    (hheld : trail.held slot = some r)
    : ∃ before after, rs = before ++ r :: after ∧ PutsAt role before r d slot := by
  rw [held_eq_of_mem h, held_iff] at hheld
  obtain ⟨before, after, heq, hputs, _⟩ := hheld
  exact ⟨before, after, heq, hputs⟩

theorem of_isOwn (h : (d, trail) ∈ roleDeployments rs role) (hheld : trail.held slot = some r)
    (hslot : slot.marker ≠ .externalLog) (hown : r.IsOwn role)
    : r.deployment = d ∧ r.marker = slot.marker ∧ r.pointer.ident = role := by
  obtain ⟨_, _, _, hputs⟩ := putsAt_of_held h hheld
  have hmarker := marker_of_slot hputs.slot
  have hname := hown.resolve_right fun hlog => hslot (hmarker ▸ hlog.1)
  exact ⟨hputs.deployment, hmarker, hname⟩

theorem isOf_iff (h : (d, trail) ∈ roleDeployments rs role)
    : trail.IsOf role d ↔ ∀ slot r, trail.held slot = some r → r.IsOwn role := by
  constructor
  . intro hof slot r hheld
    cases slot with
    | start => exact .inl (hof.start r hheld).2.2
    | finish => exact .inl (hof.finish r hheld).2.2
    | external name =>
      obtain ⟨_, _, _, hputs⟩ := putsAt_of_held h hheld
      obtain ⟨_, hname | hrole⟩ := hof.externals _ ((mem_externals_iff h).mpr hheld)
      . exact .inl hname
      . exact .inr ⟨marker_of_slot hputs.slot, hrole⟩
  . intro hown
    constructor
    case start =>
      intro r hr
      have hheld : trail.held .start = some r := hr
      exact of_isOwn h hheld (by decide) (hown _ r hheld)
    case finish =>
      intro r hr
      have hheld : trail.held .finish = some r := hr
      exact of_isOwn h hheld (by decide) (hown _ r hheld)
    case externals =>
      rintro ⟨name, r⟩ hr
      have hheld := (mem_externals_iff h).mp hr
      obtain ⟨_, _, _, hputs⟩ := putsAt_of_held h hheld
      exact ⟨hputs.deployment, (hown _ r hheld).imp_right And.right⟩

end

/-- What stands in a trail is of its deployment, and names the role or stands while the role is open.
The trails tell about nothing else than the role if and only if every record that does not belong
there, but stands while the role is open, is replaced by a later one. -/
theorem own_iff_replaced (rs : List Record) (role : String)
    : (∀ d trail, (d, trail) ∈ roleDeployments rs role → ∀ slot r, trail.held slot = some r →
          ∃ before after, rs = before ++ r :: after ∧ PutsAt role before r d slot)
        ∧ ((∀ d trail, (d, trail) ∈ roleDeployments rs role → trail.IsOf role d) ↔
          ∀ before r after slot, rs = before ++ r :: after → IsOpen role before →
            ¬ r.IsOwn role → r.slot? = some slot →
            ∃ mid s rest, after = mid ++ s :: rest
              ∧ PutsAt role (before ++ r :: mid) s r.deployment slot) := by
  refine ⟨fun d trail hmem slot r hheld => putsAt_of_held hmem hheld, ?_⟩
  constructor
  . intro hof before r after slot heq hopen hforeign hslot
    by_contra hlast
    have hheld : (trailsOf role rs).held r.deployment slot = some r := by
      refine held_iff.mpr ⟨before, after, heq, ⟨.inr hopen, rfl, hslot⟩, ?_⟩
      intro mid s rest hafter hputs
      exact hlast ⟨mid, s, rest, hafter, hputs⟩
    obtain ⟨trail, hmem, htrail⟩ := exists_mem_of_held hheld
    exact hforeign ((isOf_iff hmem).mp (hof _ trail hmem) slot r htrail)
  . intro hreplaced d trail hmem
    rw [isOf_iff hmem]
    intro slot r hheld
    rw [held_eq_of_mem hmem, held_iff] at hheld
    obtain ⟨before, after, heq, hputs, hlast⟩ := hheld
    by_contra hforeign
    have hopen : IsOpen role before := hputs.counts.resolve_left fun hname => hforeign (.inl hname)
    obtain ⟨mid, s, rest, hafter, hlater⟩ :=
      hreplaced before r after slot heq hopen hforeign hputs.slot
    rw [hputs.deployment] at hlater
    exact hlast mid s rest hafter hlater

/-- An index of a role that was never finished, and of another one in the next deployment. -/
def unfinishedIndex : String :=
  "[\"t1\",\"d1\",\x7b\"variant\":\"Role\",\"fields\":[\"web\",\"s1\",0]\x7d,\"RoleStart\"]\n"
    ++ "[\"t2\",\"d2\",\x7b\"variant\":\"Role\",\"fields\":[\"db\",\"s2\",0]\x7d,\"RoleStart\"]\n"

theorem takes_other_role
    : ¬ ∀ (text : List Char) (fromFileStart : Bool) (role : String),
        ∀ d trail, (d, trail) ∈ roleDeployments (parse text fromFileStart) role →
          trail.IsOf role d := by
  intro h
  have hown := h unfinishedIndex.toList true "web"
  have hheld : ((trailsOf "web" (parse unfinishedIndex.toList true)).held "d2" .start).map
      (fun r => r.pointer.ident) = some "db" := by
    decide +kernel
  generalize parse unfinishedIndex.toList true = records at hown hheld
  obtain ⟨r, hr, hdb⟩ := Option.map_eq_some_iff.mp hheld
  obtain ⟨trail, hmem, hstart⟩ := exists_mem_of_held hr
  obtain ⟨_, _, hweb⟩ := (hown "d2" trail hmem).start r hstart
  rw [hdb] at hweb
  contradiction

end RangeTail.Index
