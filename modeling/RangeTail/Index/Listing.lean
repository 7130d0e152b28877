import RangeTail.Index.Record
import RangeTail.Text.Cut
import RangeTail.Text.Quoted
import RangeTail.Text.Utf8

/-!
This module contains the listing of an index: its records with the roles they belong to, those that
pass a filter, and the line that shows a record.
-/

namespace RangeTail.Index

/-- The most records that a filter lets through. -/
def maxFiltered : Nat := 200

/--
The lines of a part of an index. The last one is empty or cut off and is left out; so is the first
one unless the part begins with the file.
-/
def wholeLines (text : List Char) (fromFileStart : Bool) : List (List Char) :=
  let lines := (Text.splitOn '\n' text).dropLast
  if fromFileStart then lines else lines.drop 1

/--
The role of a record, and the role that is open after it, from the one that is open before it. A
start opens a role that it belongs to itself, and so does the finish belong to the role it closes.
-/
def assignRole (openRole : Option String) (r : Record) : Record × Option String :=
  match r.marker with
  | .roleStart => ({ r with role := some r.pointer.ident }, some r.pointer.ident)
  | .roleFinish => ({ r with role := openRole }, none)
  | _ => ({ r with role := openRole }, openRole)

/-- Records with the roles that they belong to. -/
def assignRoles (records : List Record) : List Record :=
  go none records []
where
  go (openRole : Option String) : List Record → List Record → List Record
    | [], done => done.reverse
    | r :: rs, done =>
      let (r, openRole) := assignRole openRole r
      go openRole rs (r :: done)

/-- The records of a part of an index; lines that hold none are passed over. -/
def parse (text : List Char) (fromFileStart : Bool) : List Record :=
  assignRoles ((wholeLines text fromFileStart).filterMap fun line => (Record.ofLine line).toOption)

/-- Which records to show. -/
inductive RoleFilter where
  | all
  /-- Those outside any role. -/
  | unassigned
  /-- Those of roles with a text in their names. -/
  | containing (part : String)
  deriving DecidableEq, Repr

namespace RoleFilter

/-- The filter that a word stands for: nothing, a dash, or a part of names. -/
def parse : String → RoleFilter
  | "" => .all
  | "-" => .unassigned
  | part => .containing part

def admits (f : RoleFilter) (r : Record) : Bool :=
  match f with
  | .all => true
  | .unassigned => r.role.isNone
  | .containing part => r.role.any fun role => Text.occursIn part.toList role.toList

end RoleFilter

/-- The last records that pass a filter, as many as are shown. -/
def filtered (records : List Record) (f : RoleFilter) : List Record :=
  let passing := records.filter f.admits
  passing.drop (passing.length - maxFiltered)

/-- A marker in a line. -/
def Marker.text : Marker → String
  | .deploymentStart => "DeploymentStart"
  | .roleStart => "RoleStart"
  | .actionStart action => "ActionStart(" ++ Text.quoted action ++ ")"
  | .actionFinish action => "ActionFinish(" ++ Text.quoted action ++ ")"
  | .externalLog => "ExternalLog"
  | .roleFinish => "RoleFinish"
  | .deploymentFinish => "DeploymentFinish"
  | .deploymentError => "DeploymentError"

/-- A text filled up with blanks to a width. -/
def padded (width : Nat) (s : String) : String :=
  s ++ String.ofList (List.replicate (width - s.length) ' ')

/-- The line that shows a record. -/
def Record.line (r : Record) : String :=
  r.time ++ " " ++ r.deployment ++ " " ++ padded 12 (r.role.getD "-") ++ " " ++ r.marker.text ++ " "
    ++ r.pointer.viewPath ++ "@" ++ toString r.pointer.offset

end RangeTail.Index
