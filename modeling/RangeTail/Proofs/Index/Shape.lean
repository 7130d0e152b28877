import RangeTail.Proofs.Index.Roles
import RangeTail.Proofs.Json.Bounds

/-!
This module contains the shape of the lines that hold a record: which JSON values a record is
written as, and that these are the ones it is read of.
-/

namespace RangeTail.Index

/-- Whether a JSON value is an object with a variant, and with fields that begin with certain
values. Further entries and further fields do not matter. -/
def IsTagged (v : Json.Value) (variant : String) (front : List Json.Value) : Prop :=
  ∃ entries fields, v = .object entries
    ∧ entries.lookup "variant" = some (.string variant)
    ∧ entries.lookup "fields" = some (.array fields)
    ∧ front <+: fields

/-- The variant that a pointer is written as. -/
def Pointer.variant : Pointer → String
  | .global _ _ => "Global"
  | .changes _ _ => "Changes"
  | .role _ _ _ => "Role"
  | .external _ _ => "External"

/-- The fields that a pointer is written with. -/
def Pointer.fields : Pointer → List Json.Value
  | .global segment offset => [.string segment, .natural offset]
  | .changes segment offset => [.string segment, .natural offset]
  | .role name segment offset => [.string name, .string segment, .natural offset]
  | .external name offset => [.string name, .natural offset]

/-- Whether a pointer is written as a JSON value. Its offset is a number of 64 bits. -/
def Pointer.IsWritten (p : Pointer) (v : Json.Value) : Prop :=
  IsTagged v p.variant p.fields ∧ p.offset ≤ maxOffset

/-- Whether a marker is written as a JSON value: by its name, or with the action that it names. -/
def Marker.IsWritten (m : Marker) (v : Json.Value) : Prop :=
  match m with
  | .deploymentStart => v = .string "DeploymentStart"
  | .roleStart => v = .string "RoleStart"
  | .actionStart action => IsTagged v "ActionStart" [.string action]
  | .actionFinish action => IsTagged v "ActionFinish" [.string action]
  | .externalLog => v = .string "ExternalLog"
  | .roleFinish => v = .string "RoleFinish"
  | .deploymentFinish => v = .string "DeploymentFinish"
  | .deploymentError => v = .string "DeploymentError"

/-- Whether a record is written as a JSON value: an array of four. It has no role yet. -/
def Record.IsWritten (r : Record) (v : Json.Value) : Prop :=
  ∃ pointer marker, v = .array [.string r.time, .string r.deployment, pointer, marker]
    ∧ r.pointer.IsWritten pointer
    ∧ r.marker.IsWritten marker
    ∧ r.role = none

section

variable {v : Json.Value} {s variant : String} {n : Nat} {front fields : List Json.Value} {i : Nat}

theorem string?_eq_some : v.string? = some s ↔ v = .string s := by
  cases v <;> simp [Json.Value.string?]

theorem natural?_eq_some : v.natural? = some n ↔ v = .natural n := by
  cases v <;> simp [Json.Value.natural?]

theorem items?_eq_some : v.items? = some fields ↔ v = .array fields := by
  cases v <;> simp [Json.Value.items?]

theorem isTagged_iff
    : IsTagged v variant front ↔
        (v.get? "variant").bind Json.Value.string? = some variant
          ∧ ∃ fields, (v.get? "fields").bind Json.Value.items? = some fields
            ∧ front <+: fields := by
  simp only [Option.bind_eq_some_iff, string?_eq_some, items?_eq_some]
  unfold IsTagged Json.Value.get?
  cases v <;> simp

theorem textField_eq_ok
    : Pointer.textField variant fields i = .ok s ↔ fields[i]? = some (.string s) := by
  have hread : fields[i]?.bind Json.Value.string? = some s ↔ fields[i]? = some (.string s) := by
    simp [Option.bind_eq_some_iff, string?_eq_some]
  rw [← hread]
  unfold Pointer.textField
  split <;> simp [*]

theorem offsetField_eq_ok
    : Pointer.offsetField variant fields i = .ok n ↔ fields[i]? = some (.natural n) := by
  have hread : fields[i]?.bind Json.Value.natural? = some n ↔ fields[i]? = some (.natural n) := by
    simp [Option.bind_eq_some_iff, natural?_eq_some]
  rw [← hread]
  unfold Pointer.offsetField
  split <;> simp [*]

/-- Fields that are read as a text and an offset begin with these. -/
theorem prefix_of_textField_offsetField (make : String → Nat → Pointer) {p : Pointer}
    (h : (do
      return make (← Pointer.textField variant fields 0) (← Pointer.offsetField variant fields 1))
        = .ok p)
    : ∃ text offset, [.string text, .natural offset] <+: fields ∧ p = make text offset := by
  obtain ⟨text, htext, h⟩ := exists_of_bind_eq_ok h
  obtain ⟨offset, hoffset, h⟩ := exists_of_bind_eq_ok h
  refine ⟨text, offset, List.prefix_iff_getElem?.mpr ?_, (Except.ok.inj h).symm⟩
  intro i hi
  match i, hi with
  | 0, _ => exact textField_eq_ok.mp htext
  | 1, _ => exact offsetField_eq_ok.mp hoffset

theorem ofFields_eq_ok {p : Pointer}
    : Pointer.ofFields variant fields = .ok p ↔ variant = p.variant ∧ p.fields <+: fields := by
  constructor
  . intro h
    unfold Pointer.ofFields at h
    split at h
    . obtain ⟨segment, offset, hfields, rfl⟩ := prefix_of_textField_offsetField .global h
      exact ⟨rfl, hfields⟩
    . obtain ⟨segment, offset, hfields, rfl⟩ := prefix_of_textField_offsetField .changes h
      exact ⟨rfl, hfields⟩
    . obtain ⟨name, hname, h⟩ := exists_of_bind_eq_ok h
      obtain ⟨segment, hsegment, h⟩ := exists_of_bind_eq_ok h
      obtain ⟨offset, hoffset, h⟩ := exists_of_bind_eq_ok h
      cases h
      refine ⟨rfl, List.prefix_iff_getElem?.mpr ?_⟩
      intro i hi
      match i, hi with
      | 0, _ => exact textField_eq_ok.mp hname
      | 1, _ => exact textField_eq_ok.mp hsegment
      | 2, _ => exact offsetField_eq_ok.mp hoffset
    . obtain ⟨name, offset, hfields, rfl⟩ := prefix_of_textField_offsetField .external h
      exact ⟨rfl, hfields⟩
    . contradiction
  . rintro ⟨rfl, more, rfl⟩
    cases p <;> rfl

/-- A pointer is read of the values that it is written as. -/
theorem pointer_ofJson_eq_ok {p : Pointer}
    : Pointer.ofJson v = .ok p ↔ IsTagged v p.variant p.fields := by
  rw [isTagged_iff]
  unfold Pointer.ofJson
  split
  . next hnone => simp [hnone]
  . next variant hvariant =>
    split
    . next hnone => simp [hnone]
    . next fields hfields => simp [hvariant, hfields, ofFields_eq_ok]

theorem offset_le_of_isTagged {p : Pointer} (h : IsTagged v p.variant p.fields) (hfits : v.Fits)
    : p.offset ≤ maxOffset := by
  obtain ⟨entries, fields, rfl, _, hlookup, more, rfl⟩ := h
  cases hfits with
  | object hentries =>
    obtain ⟨front, back, rfl, _⟩ := List.lookup_eq_some_iff.mp hlookup
    have hfields := hentries ("fields", _) (List.mem_append_right _ List.mem_cons_self)
    have hoffset : .natural p.offset ∈ p.fields := by
      cases p <;> simp [Pointer.fields, Pointer.offset]
    cases hfields with
    | array hvalues =>
      cases hvalues _ (List.mem_append_left more hoffset) with
      | natural hle => exact hle

theorem ofName?_eq_some {m : Marker} {name : String}
    : Marker.ofName? name = some m ↔ m.IsWritten (.string name) := by
  constructor
  . intro h
    unfold Marker.ofName? at h
    split at h <;> cases h <;> rfl
  . intro h
    cases m
    case actionStart | actionFinish =>
      obtain ⟨_, _, hobject, _⟩ := h
      contradiction
    all_goals
      cases h
      rfl

theorem ofAction?_eq_some {m : Marker}
    : Marker.ofAction? v = some m ↔
        ∃ action, (IsTagged v "ActionStart" [.string action] ∧ m = .actionStart action)
          ∨ (IsTagged v "ActionFinish" [.string action] ∧ m = .actionFinish action) := by
  constructor
  . intro h
    obtain ⟨variant, hvariant, h⟩ := Option.bind_eq_some_iff.mp h
    obtain ⟨fields, hfields, h⟩ := Option.bind_eq_some_iff.mp h
    obtain ⟨action, haction, h⟩ := Option.bind_eq_some_iff.mp h
    have htagged : IsTagged v variant [.string action] := by
      obtain ⟨first, hfirst, hstring⟩ := Option.bind_eq_some_iff.mp haction
      obtain ⟨more, rfl⟩ := List.head?_eq_some_iff.mp hfirst
      rw [string?_eq_some.mp hstring] at hfields
      exact isTagged_iff.mpr ⟨hvariant, _, hfields, more, rfl⟩
    split at h
    . cases h
      exact ⟨action, .inl ⟨htagged, rfl⟩⟩
    . cases h
      exact ⟨action, .inr ⟨htagged, rfl⟩⟩
    . contradiction
  . rintro ⟨action, ⟨htagged, rfl⟩ | ⟨htagged, rfl⟩⟩
    all_goals
      obtain ⟨hvariant, fields, hfields, more, rfl⟩ := isTagged_iff.mp htagged
      simp [Marker.ofAction?, hvariant, hfields, Json.Value.string?]

theorem isWritten_iff_ofAction? {m : Marker} (h : ∀ name, v ≠ .string name)
    : m.IsWritten v ↔ Marker.ofAction? v = some m := by
  rw [ofAction?_eq_some]
  cases m <;> simp [Marker.IsWritten, h]

/-- A marker is read of the values that it is written as. -/
theorem marker_ofJson_eq_ok {m : Marker} : Marker.ofJson v = .ok m ↔ m.IsWritten v := by
  unfold Marker.ofJson
  split
  . next name =>
    rw [← ofName?_eq_some]
    split <;> simp [*]
  . next hstring =>
    rw [isWritten_iff_ofAction? hstring]
    split <;> simp [*]

theorem textItem_eq_ok {what : String} : Record.textItem what v = .ok s ↔ v = .string s := by
  rw [← string?_eq_some]
  unfold Record.textItem
  split <;> simp [*]

/-- A record is read of the values that it is written as. -/
theorem record_ofJson_eq_ok {r : Record} (hfits : v.Fits)
    : Record.ofJson v = .ok r ↔ r.IsWritten v := by
  constructor
  . intro h
    unfold Record.ofJson at h
    split at h
    . next time deployment pointer marker =>
      obtain ⟨time, htime, h⟩ := exists_of_bind_eq_ok h
      obtain ⟨deployment, hdeployment, h⟩ := exists_of_bind_eq_ok h
      obtain ⟨p, hpointer, h⟩ := exists_of_bind_eq_ok h
      obtain ⟨m, hmarker, h⟩ := exists_of_bind_eq_ok h
      cases h
      have htagged := pointer_ofJson_eq_ok.mp hpointer
      have hpointerFits : pointer.Fits := by
        cases hfits with
        | array hitems => exact hitems pointer (by simp)
      rw [textItem_eq_ok.mp htime, textItem_eq_ok.mp hdeployment]
      exact ⟨pointer, marker, rfl, ⟨htagged, offset_le_of_isTagged htagged hpointerFits⟩,
        marker_ofJson_eq_ok.mp hmarker, rfl⟩
    . contradiction
  . obtain ⟨time, deployment, p, m, role⟩ := r
    rintro ⟨pointer, marker, rfl, ⟨htagged, _⟩, hmarker, hrole⟩
    cases hrole
    unfold Record.ofJson
    dsimp only
    rw [pointer_ofJson_eq_ok.mpr htagged, marker_ofJson_eq_ok.mpr hmarker]
    rfl

/-! What is no JSON is told apart from JSON of another shape -/

theorem bind_ne_json {x : Except Error α} {f : α → Except Error β} (hx : x ≠ .error .json)
    (hf : ∀ a, f a ≠ .error .json)
    : (x >>= f) ≠ .error .json := by
  cases x with
  | error e => exact fun h => hx (congrArg Except.error (Except.error.inj h))
  | ok a => exact hf a

theorem textField_ne_json : Pointer.textField variant fields i ≠ .error .json := by
  unfold Pointer.textField
  split <;> simp

theorem offsetField_ne_json : Pointer.offsetField variant fields i ≠ .error .json := by
  unfold Pointer.offsetField
  split <;> simp

theorem ofFields_ne_json : Pointer.ofFields variant fields ≠ .error .json := by
  unfold Pointer.ofFields
  split
  case h_3 =>
    apply bind_ne_json textField_ne_json
    intro name
    apply bind_ne_json textField_ne_json
    intro segment
    exact bind_ne_json offsetField_ne_json nofun
  case h_5 => nofun
  all_goals
    apply bind_ne_json textField_ne_json
    intro name
    exact bind_ne_json offsetField_ne_json nofun

theorem pointer_ofJson_ne_json : Pointer.ofJson v ≠ .error .json := by
  unfold Pointer.ofJson
  split
  . nofun
  . split
    . nofun
    . exact ofFields_ne_json

theorem marker_ofJson_ne_json : Marker.ofJson v ≠ .error .json := by
  unfold Marker.ofJson
  split <;> split <;> simp

theorem textItem_ne_json {what : String} : Record.textItem what v ≠ .error .json := by
  unfold Record.textItem
  split <;> simp

theorem record_ofJson_ne_json : Record.ofJson v ≠ .error .json := by
  unfold Record.ofJson
  split
  . apply bind_ne_json textItem_ne_json
    intro time
    apply bind_ne_json textItem_ne_json
    intro deployment
    apply bind_ne_json pointer_ofJson_ne_json
    intro pointer
    exact bind_ne_json marker_ofJson_ne_json nofun
  . nofun

end

/-- A line holds a record if and only if the record is written there as JSON, without a role. JSON
that no record is written as is refused for its shape, and what is no JSON is refused for that. -/
theorem ofLine_iff_written (line : List Char)
    : (∀ r, Record.ofLine line = .ok r ↔ ∃ v, Json.parse line = some v ∧ r.IsWritten v)
        ∧ ((∃ what, Record.ofLine line = .error (.shape what)) ↔
          ∃ v, Json.parse line = some v ∧ ∀ r : Record, ¬ r.IsWritten v)
        ∧ (Record.ofLine line = .error .json ↔ Json.parse line = none) := by
  unfold Record.ofLine
  cases hparse : Json.parse line with
  | none => simp
  | some v =>
    have hread (r : Record) : Record.ofJson v = .ok r ↔ r.IsWritten v :=
      record_ofJson_eq_ok (Json.fits_of_parse hparse)
    refine ⟨?_, ?_, ?_⟩
    . simp [hread]
    . simp only [← hread, Option.some.injEq, exists_eq_left']
      cases h : Record.ofJson v with
      | ok r => simp
      | error e =>
        cases e with
        | json => exact absurd h record_ofJson_ne_json
        | shape what => simp
    . simp [record_ofJson_ne_json]

end RangeTail.Index
