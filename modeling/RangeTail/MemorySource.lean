import RangeTail.Fetch
import RangeTail.MemoryLog

/-!
This module contains sources that serve a log held in memory to those who fetch ranges of it. A
source keeps account of the fetches, can be made to fail, and can hold its answers back.
-/

namespace RangeTail

/-- A source and what it has seen so far. -/
structure MemorySource where
  log : MemoryLog
  /-- The ranges asked for, in order. -/
  requests : List ByteRange := []
  /-- The faults that the next answers shall be, oldest first. -/
  failures : List Fault := []
  /-- Answers are held back. -/
  held : Bool := false
  /-- The number of fetches under way. -/
  active : Nat := 0
  /-- The most fetches that were under way at once. -/
  maxActive : Nat := 0
  /-- The number of fetches answered. -/
  completed : Nat := 0
  deriving DecidableEq, Repr

namespace MemorySource

/-- The next answer shall be `fault`, after those that were asked for before. -/
def failNext (s : MemorySource) (fault : Fault) : MemorySource :=
  { s with failures := s.failures ++ [fault] }

def hold (s : MemorySource) : MemorySource :=
  { s with held := true }

def release (s : MemorySource) : MemorySource :=
  { s with held := false }

def append (s : MemorySource) (more : List UInt8) : MemorySource :=
  { s with log := s.log.append more }

def truncate (s : MemorySource) (n : Nat) : MemorySource :=
  { s with log := s.log.truncate n }

/-- A fetch gets under way. -/
def startFetch (s : MemorySource) (r : ByteRange) : MemorySource :=
  { s with
    requests := s.requests ++ [r]
    active := s.active + 1
    maxActive := max s.maxActive (s.active + 1) }

/-- A fetch that is under way is given up. -/
def abandon (s : MemorySource) : MemorySource :=
  { s with active := s.active - 1 }

/-- The answer to a fetch that is under way, unless it is held back. -/
def answer? (s : MemorySource) (r : ByteRange) : Option (Except Fault Chunk) :=
  if s.held then none
  else match s.failures with
    | fault :: _ => some (.error fault)
    | [] => some (s.log.serve r)

/-- A fetch that was under way has been answered. -/
def finishFetch (s : MemorySource) : MemorySource :=
  { s with failures := s.failures.tail, active := s.active - 1, completed := s.completed + 1 }

end MemorySource

namespace Fetch

/-- Ask for the answer to a fetch, which gets under way at the first time. -/
def poll (f : Fetch) (s : MemorySource) : Option (Except Fault Chunk) × Fetch × MemorySource :=
  let s := if f.isUnderWay then s else s.startFetch f.range
  match s.answer? f.range with
  | some answer => (some answer, { f with isUnderWay := false }, s.finishFetch)
  | none => (none, { f with isUnderWay := true }, s)

/-- Give a fetch up. -/
def drop (f : Fetch) (s : MemorySource) : MemorySource :=
  if f.isUnderWay then s.abandon else s

end Fetch
end RangeTail
