import RangeTail.Index.Record

/-!
This module contains the trail of a role: for each deployment that it took part in, when it started
and finished there, and which logs of other tools were attached.
-/

namespace RangeTail.Index

/-- What became of a role in one deployment. -/
structure Trail where
  start : Option Record := none
  finish : Option Record := none
  /-- The last record of each log that was attached, in the order of their names. -/
  externals : List (String × Record) := []
  deriving DecidableEq, Repr, Inhabited

/-- Put a value under a key, in the place that the order of the keys gives it. -/
def putSorted (key : String) (v : α) : List (String × α) → List (String × α)
  | [] => [(key, v)]
  | (k, w) :: rest =>
    if key = k then (k, v) :: rest
    else if key < k then (key, v) :: (k, w) :: rest
    else (k, w) :: putSorted key v rest

namespace Trail

/-- The trail with one more record. -/
def add (t : Trail) (r : Record) : Trail :=
  match r.marker with
  | .roleStart => { t with start := some r }
  | .roleFinish => { t with finish := some r }
  | .externalLog => { t with externals := putSorted r.pointer.ident r t.externals }
  | _ => t

end Trail

/-- The trails of a role by deployment, and whether a role is open. -/
structure Trails where
  byDeployment : List (String × Trail) := []
  open_ : Bool := false

namespace Trails

/-- The trails with one more record. It counts if it names the role or one is open. -/
def add (role : String) (t : Trails) (r : Record) : Trails :=
  if r.pointer.ident = role ∨ t.open_ then
    let trail := (t.byDeployment.lookup r.deployment).getD {}
    { byDeployment := putSorted r.deployment (trail.add r) t.byDeployment
      open_ := match r.marker with
        | .roleStart => true
        | .roleFinish => false
        | _ => t.open_ }
  else t

end Trails

/-- What became of a role in each deployment, in the order of their names. -/
def roleDeployments (records : List Record) (role : String) : List (String × Trail) :=
  (records.foldl (Trails.add role) {}).byDeployment

end RangeTail.Index
