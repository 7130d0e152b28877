import RangeTail.ByteRange
import RangeTail.Json.Reader

/-!
This module contains the records of a deployment index. Each is a JSON array of a time, a deployment,
a pointer into one of the log files and a marker that says what happened.
-/

namespace RangeTail.Index

/-- The path of the index on a cluster. -/
def path : String := "/v1/log/index/latest"

/-- The bytes of an index that are read from its end. -/
def tailBytes : Nat := 1048576

/-- The bytes after a pointer that are shown with it. -/
def viewWindow : Nat := 65536

/-- Where in the log files something is to be found. -/
inductive Pointer where
  | global (segment : String) (offset : Nat)
  | changes (segment : String) (offset : Nat)
  | role (role segment : String) (offset : Nat)
  /-- A log that another tool wrote. -/
  | external (name : String) (offset : Nat)
  deriving DecidableEq, Repr

namespace Pointer

/-- The first field of a pointer. -/
def ident : Pointer → String
  | .global segment _ => segment
  | .changes segment _ => segment
  | .role name _ _ => name
  | .external name _ => name

def offset : Pointer → Nat
  | .global _ offset => offset
  | .changes _ offset => offset
  | .role _ _ offset => offset
  | .external _ offset => offset

/-- The path of the log file. -/
def viewPath : Pointer → String
  | .global segment _ => s!"/v1/log/global/log.{segment}.txt"
  | .changes segment _ => s!"/v1/log/changes/log.{segment}.txt"
  | .role name segment _ => s!"/v1/log/role/{name}/log.{segment}.txt"
  | .external name _ => s!"/v1/log/external/{name}"

/-- The bytes to show. The sum is not clamped, so it is up to the build what becomes of a window
that passes the largest offset. -/
def viewRange (o : Overflow) (p : Pointer) : Option ByteRange :=
  (o.sum p.offset viewWindow).map (.span p.offset)

end Pointer

/-- What happened. -/
inductive Marker where
  | deploymentStart
  | roleStart
  | actionStart (action : String)
  | actionFinish (action : String)
  /-- A log of another tool was attached. -/
  | externalLog
  | roleFinish
  | deploymentFinish
  | deploymentError
  deriving DecidableEq, Repr

/-- A record of an index. -/
structure Record where
  time : String
  deployment : String
  pointer : Pointer
  marker : Marker
  /-- The role that was being deployed, as the records around it tell. -/
  role : Option String := none
  deriving DecidableEq, Repr

/-- Why a line is no record. -/
inductive Error where
  /-- It is not JSON. -/
  | json
  /-- It is JSON of another shape. -/
  | shape (what : String)
  deriving DecidableEq, Repr

def Error.message : Error → String
  | .json => "invalid json"
  | .shape what => s!"unexpected record shape: {what}"

namespace Pointer

/-- The text in one of the fields of a pointer. -/
def textField (variant : String) (fields : List Json.Value) (i : Nat) : Except Error String :=
  match fields[i]?.bind Json.Value.string? with
  | some s => .ok s
  | none => .error (.shape s!"{variant} field {i} is not a string")

/-- The offset in one of the fields of a pointer. -/
def offsetField (variant : String) (fields : List Json.Value) (i : Nat) : Except Error Nat :=
  match fields[i]?.bind Json.Value.natural? with
  | some n => .ok n
  | none => .error (.shape s!"{variant} field {i} is not an offset")

/-- The pointer of a variant, from its fields; further fields are passed over. -/
def ofFields (variant : String) (fields : List Json.Value) : Except Error Pointer := do
  match variant with
  | "Global" => return .global (← textField variant fields 0) (← offsetField variant fields 1)
  | "Changes" => return .changes (← textField variant fields 0) (← offsetField variant fields 1)
  | "Role" =>
    return .role (← textField variant fields 0) (← textField variant fields 1)
      (← offsetField variant fields 2)
  | "External" => return .external (← textField variant fields 0) (← offsetField variant fields 1)
  | _ => throw (.shape s!"unknown pointer variant {variant}")

/-- The pointer that a JSON value is. -/
def ofJson (v : Json.Value) : Except Error Pointer :=
  match (v.get? "variant").bind Json.Value.string? with
  | none => .error (.shape "pointer without variant")
  | some variant =>
    match (v.get? "fields").bind Json.Value.items? with
    | none => .error (.shape "pointer without fields")
    | some fields => ofFields variant fields

end Pointer

namespace Marker

/-- The marker that a name stands for. -/
def ofName? : String → Option Marker
  | "DeploymentStart" => some .deploymentStart
  | "RoleStart" => some .roleStart
  | "ExternalLog" => some .externalLog
  | "RoleFinish" => some .roleFinish
  | "DeploymentFinish" => some .deploymentFinish
  | "DeploymentError" => some .deploymentError
  | _ => none

/-- The marker that names an action, from its variant and its fields. -/
def ofAction? (v : Json.Value) : Option Marker := do
  let variant ← (v.get? "variant").bind Json.Value.string?
  let fields ← (v.get? "fields").bind Json.Value.items?
  let action ← fields.head?.bind Json.Value.string?
  match variant with
  | "ActionStart" => some (.actionStart action)
  | "ActionFinish" => some (.actionFinish action)
  | _ => none

/-- The marker that a JSON value is. -/
def ofJson (v : Json.Value) : Except Error Marker :=
  match v with
  | .string name =>
    match ofName? name with
    | some m => .ok m
    | none => .error (.shape s!"unknown marker {name}")
  | v =>
    match ofAction? v with
    | some m => .ok m
    | none => .error (.shape s!"unknown marker {v.text}")

end Marker

namespace Record

/-- The text that an item of a record is, under the name it has in an error. -/
def textItem (what : String) (v : Json.Value) : Except Error String :=
  match v.string? with
  | some s => .ok s
  | none => .error (.shape s!"{what} is not a string")

/-- The record that a JSON value is. -/
def ofJson (v : Json.Value) : Except Error Record :=
  match v with
  | .array [time, deployment, pointer, marker] => do
    let time ← textItem "time" time
    let deployment ← textItem "deployment" deployment
    let pointer ← Pointer.ofJson pointer
    let marker ← Marker.ofJson marker
    return { time, deployment, pointer, marker }
  | _ => .error (.shape "record is not a 4-element array")

/-- The record that a line holds. -/
def ofLine (line : List Char) : Except Error Record :=
  match Json.parse line with
  | some v => ofJson v
  | none => .error .json

end Record
end RangeTail.Index
