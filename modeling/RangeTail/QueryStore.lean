import RangeTail.Snapshot
import RangeTail.Text.Decimal
import RangeTail.Text.Quoted
import RangeTail.Url.Form

/-!
This module contains the place where the position of a window is kept, so that a later visit can
begin there: values under keys, in memory or in the query of a URL.
-/

namespace RangeTail

/-- Values under keys. -/
inductive QueryStore where
  | memory (pairs : List (String × String))
  | address (url : Url)
  deriving DecidableEq, Repr

namespace QueryStore

/-- All pairs of a key and a value. -/
def pairs : QueryStore → List (String × String)
  | .memory ps => ps
  | .address u => u.pairs

/-- The first value under a key. -/
def get? (s : QueryStore) (key : String) : Option String :=
  s.pairs.lookup key

/-- The store with other pairs. -/
def withPairs (s : QueryStore) (ps : List (String × String)) : QueryStore :=
  match s with
  | .memory _ => .memory ps
  | .address u => .address (u.withPairs ps)

/-- The pairs under other keys. -/
def others (s : QueryStore) (key : String) : List (String × String) :=
  s.pairs.filter fun p => p.1 ≠ key

/-- Put a value under a key, in place of all that stood there. -/
def set (s : QueryStore) (key value : String) : QueryStore :=
  s.withPairs (s.others key ++ [(key, value)])

/-- Take out all that stands under a key. -/
def remove (s : QueryStore) (key : String) : QueryStore :=
  s.withPairs (s.others key)

def url? : QueryStore → Option Url
  | .memory _ => none
  | .address u => some u

end QueryStore

/-- A parameter of a store that holds the position of a window. -/
structure OffsetParam where
  store : QueryStore
  name : String
  deriving DecidableEq, Repr

namespace OffsetParam

def value? (p : OffsetParam) : Option String :=
  p.store.get? p.name

/-- The position that the parameter holds, if it is one. -/
def offset? (p : OffsetParam) : Option Nat :=
  p.value?.bind fun v => Text.readOffset (Text.trim v.toList)

/-- Note where the window of a snapshot begins, if it has one. -/
def record (p : OffsetParam) (s : Snapshot) : OffsetParam :=
  match s.offset with
  | some offset => { p with store := p.store.set p.name (toString offset) }
  | none => p

/-- Take the parameter out. -/
def clear (p : OffsetParam) : OffsetParam :=
  { p with store := p.store.remove p.name }

def description (p : OffsetParam) : String :=
  "OffsetQueryBinder \x7b param: " ++ Text.quoted p.name ++ ", .. \x7d"

end OffsetParam
end RangeTail
