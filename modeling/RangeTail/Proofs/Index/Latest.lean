import RangeTail.Index.Latest
import RangeTail.MemoryLog
import RangeTail.Proofs.Index.Roles
import RangeTail.Proofs.Snapshot.Stop
import RangeTail.Proofs.Text.Lossy

/-!
This module contains the proof that the records at the end of an index are those of the whole: what
is read there is a line as soon as it begins behind a line feed, and the roles are found again with
the first of them that is started or finished.
-/

namespace RangeTail.Index

open Text.Utf8 (decodeLossy)

/-- A complete line of a file. -/
structure Line where
  /-- The position of its first byte. -/
  start : Nat
  /-- Its bytes, without the line feed that ends it. -/
  bytes : List UInt8
  deriving DecidableEq, Repr

/-- Lines that stand one behind the other, each with its line feed, from a position on. -/
def placed (start : Nat) : List (List UInt8) → List Line
  | [] => []
  | bytes :: rest => ⟨start, bytes⟩ :: placed (start + bytes.length + 1) rest

/-- The bytes that such lines take up. -/
def extent : List (List UInt8) → Nat
  | [] => 0
  | bytes :: rest => bytes.length + 1 + extent rest

/-- The complete lines of a file. What stands behind its last line feed is none. -/
def completeLines (bytes : List UInt8) : List Line :=
  placed 0 (bytes.splitOn 0x0A).dropLast

/-- The position of the first line feed at or behind a position. -/
def lineFeedFrom (cut : Nat) (bytes : List UInt8) : Option Nat :=
  ((bytes.drop cut).findIdx? (· == 0x0A)).map (cut + ·)

/-- The complete lines that begin behind the first line feed at or behind a position. -/
def linesBehind (cut : Nat) (bytes : List UInt8) : List Line :=
  match lineFeedFrom cut bytes with
  | some feed => (completeLines bytes).filter (feed < ·.start)
  | none => []

/-- The record that a line holds, if it holds one. -/
def recordOf (line : List UInt8) : Option Record :=
  (Record.ofLine (decodeLossy line)).toOption

/-- The records that lines hold. -/
def recordsOf (lines : List Line) : List Record :=
  lines.filterMap fun line => recordOf line.bytes

section

variable {start : Nat} {line : Line} {pieces : List (List UInt8)}

theorem placed_append (start : Nat) (pieces more : List (List UInt8))
    : placed start (pieces ++ more)
        = placed start pieces ++ placed (start + extent pieces) more := by
  induction pieces generalizing start with
  | nil => rfl
  | cons piece pieces ih =>
    simp only [List.cons_append, placed, ih, extent, Nat.add_assoc]

theorem start_of_mem_placed (h : line ∈ placed start pieces)
    : start ≤ line.start ∧ line.start < start + extent pieces := by
  induction pieces generalizing start with
  | nil => contradiction
  | cons piece pieces ih =>
    rw [placed, List.mem_cons] at h
    rw [extent]
    obtain rfl | h := h
    . dsimp only
      omega
    . have := ih h
      omega

theorem map_bytes_placed (start : Nat) (pieces : List (List UInt8))
    : (placed start pieces).map Line.bytes = pieces := by
  induction pieces generalizing start with
  | nil => rfl
  | cons piece pieces ih => rw [placed, List.map_cons, ih]

theorem recordsOf_placed (start : Nat) (pieces : List (List UInt8))
    : recordsOf (placed start pieces) = pieces.filterMap recordOf := by
  conv => rhs; rw [← map_bytes_placed start pieces, List.filterMap_map]
  rfl

end

theorem extent_splitOn (bytes : List UInt8) : extent (bytes.splitOn 0x0A) = bytes.length + 1 := by
  -- a line feed is counted for every piece, also for the last one, which has none
  induction bytes with
  | nil => rfl
  | cons b bytes ih =>
    have hne := List.splitOn_ne_nil 0x0A bytes
    obtain ⟨piece, pieces, hpieces⟩ := List.exists_cons_of_ne_nil hne
    rw [List.splitOn_cons_eq_if_modifyHead]
    rw [hpieces] at ih ⊢
    rw [extent] at ih
    split
    . simp only [extent, List.length_nil, List.length_cons]
      omega
    . simp only [extent, List.modifyHead_cons, List.length_cons]
      omega

theorem completeLines_append (front back : List UInt8)
    : completeLines (front ++ 0x0A :: back)
        = placed 0 (front.splitOn 0x0A)
          ++ placed (front.length + 1) (back.splitOn 0x0A).dropLast := by
  unfold completeLines
  rw [Text.splitOn_append_cons, List.dropLast_append_of_ne_nil (List.splitOn_ne_nil _ _)]
  rw [placed_append, extent_splitOn, Nat.zero_add]

section

variable {before mid back bytes : List UInt8} {cut : Nat}

theorem findIdx?_of_not_mem (h : 0x0A ∉ bytes) : bytes.findIdx? (· == 0x0A) = none := by
  rw [List.findIdx?_eq_none_iff]
  intro b hb
  rw [beq_eq_false_iff_ne]
  rintro rfl
  exact h hb

theorem lineFeedFrom_append (h : 0x0A ∉ mid)
    : lineFeedFrom before.length (before ++ (mid ++ 0x0A :: back))
        = some (before.length + mid.length) := by
  rw [lineFeedFrom, List.drop_left, List.findIdx?_append, findIdx?_of_not_mem h,
    List.findIdx?_cons]
  simp

theorem linesBehind_of_not_mem (h : 0x0A ∉ bytes.drop cut) : linesBehind cut bytes = [] := by
  rw [linesBehind, lineFeedFrom, findIdx?_of_not_mem h]
  rfl

theorem linesBehind_append (back : List UInt8) (h : 0x0A ∉ mid)
    : linesBehind before.length (before ++ (mid ++ 0x0A :: back))
        = placed (before.length + mid.length + 1) (back.splitOn 0x0A).dropLast := by
  have hbefore : ∀ line ∈ placed 0 ((before ++ mid).splitOn 0x0A),
      ¬ before.length + mid.length < line.start := by
    intro line hline
    have := start_of_mem_placed hline
    rw [extent_splitOn, List.length_append] at this
    omega
  have hback : ∀ line ∈ placed (before.length + mid.length + 1) (back.splitOn 0x0A).dropLast,
      before.length + mid.length < line.start := by
    intro line hline
    exact (start_of_mem_placed hline).1
  unfold linesBehind
  rw [lineFeedFrom_append h, ← List.append_assoc]
  dsimp only
  rw [completeLines_append, List.filter_append, List.length_append]
  rw [List.filter_eq_nil_iff.mpr (by simpa using hbefore)]
  rw [List.filter_eq_self.mpr (by simpa using hback), List.nil_append]

theorem exists_lineFeed (h : 0x0A ∈ bytes.drop cut)
    : ∃ before mid back, bytes = before ++ (mid ++ 0x0A :: back)
        ∧ cut = before.length
        ∧ 0x0A ∉ mid := by
  obtain ⟨mid, back, hdrop, hmid⟩ := List.eq_append_cons_of_mem h
  have hle : cut ≤ bytes.length := by
    have := congrArg List.length hdrop
    rw [List.length_drop, List.length_append, List.length_cons] at this
    omega
  refine ⟨bytes.take cut, mid, back, ?_, ?_, hmid⟩
  . rw [← hdrop, List.take_append_drop]
  . rw [List.length_take, Nat.min_eq_left hle]

theorem linesBehind_suffix (cut : Nat) (bytes : List UInt8)
    : linesBehind cut bytes <:+ completeLines bytes := by
  by_cases h : 0x0A ∈ bytes.drop cut
  . obtain ⟨before, mid, back, rfl, rfl, hmid⟩ := exists_lineFeed h
    rw [linesBehind_append back hmid, ← List.append_assoc, completeLines_append]
    rw [List.length_append]
    apply List.suffix_append
  . rw [linesBehind_of_not_mem h]
    apply List.nil_suffix

/-- The lines that are read of bytes. -/
def wholePieces (bytes : List UInt8) (fromFileStart : Bool) : List (List UInt8) :=
  (bytes.splitOn 0x0A).dropLast.drop (if fromFileStart then 0 else 1)

theorem wholeLines_decodeLossy (bytes : List UInt8) (fromFileStart : Bool)
    : wholeLines (decodeLossy bytes) fromFileStart
        = (wholePieces bytes fromFileStart).map decodeLossy := by
  unfold wholeLines wholePieces
  rw [Text.splitOn_eq, Text.Utf8.splitOn_decodeLossy, ← List.map_dropLast]
  cases fromFileStart <;> simp

theorem parse_decodeLossy (bytes : List UInt8) (fromFileStart : Bool)
    : parse (decodeLossy bytes) fromFileStart
        = labelled none ((wholePieces bytes fromFileStart).filterMap recordOf) := by
  rw [parse, assignRoles_eq, wholeLines_decodeLossy, List.filterMap_map]
  rfl

/-- The records of a file are those of its complete lines. -/
theorem parse_completeLines (bytes : List UInt8)
    : parse (decodeLossy bytes) true = labelled none (recordsOf (completeLines bytes)) := by
  rw [parse_decodeLossy, completeLines, recordsOf_placed]
  rfl

/-- The records of a file from a position on are those of the lines that begin behind the next line
feed. -/
theorem parse_linesBehind (cut : Nat) (bytes : List UInt8)
    : parse (decodeLossy (bytes.drop cut)) false
        = labelled none (recordsOf (linesBehind cut bytes)) := by
  rw [parse_decodeLossy, wholePieces]
  by_cases h : 0x0A ∈ bytes.drop cut
  . obtain ⟨before, mid, back, rfl, rfl, hmid⟩ := exists_lineFeed h
    rw [linesBehind_append back hmid, recordsOf_placed, List.drop_left, Text.splitOn_append_cons]
    rw [List.dropLast_append_of_ne_nil (List.splitOn_ne_nil _ _), List.splitOn_eq_singleton hmid]
    rfl
  . rw [linesBehind_of_not_mem h, List.splitOn_eq_singleton h]
    rfl

end

theorem map_bare_recordsOf (lines : List Line)
    : (recordsOf lines).map Record.bare = recordsOf lines :=
  map_bare_filterMap (fun _ _ h => role_of_ofLine h) lines

/-- The records that are read from position `cut` of a file on are those of the lines that begin
behind the next line feed. They are the last ones of the whole file, and have the same roles there as
soon as a role was started or finished among them. -/
structure AgreesFrom (cut : Nat) (bytes : List UInt8) (records : List Record) : Prop where
  lines : records.map Record.bare = recordsOf (linesBehind cut bytes)
  suffix : ∃ earlier later, parse (decodeLossy bytes) true = earlier ++ later
    ∧ later.map Record.bare = records.map Record.bare
    ∧ ∀ i, IsSettled records i → records[i]? = later[i]?

theorem agreesFrom_parse (cut : Nat) (bytes : List UInt8)
    : AgreesFrom cut bytes (parse (decodeLossy (bytes.drop cut)) false) := by
  rw [parse_linesBehind]
  constructor
  case lines => rw [map_bare_labelled, map_bare_recordsOf]
  case suffix =>
    obtain ⟨front, hfront⟩ := linesBehind_suffix cut bytes
    refine ⟨labelled none (recordsOf front), labelled (openAfter none (recordsOf front))
      (recordsOf (linesBehind cut bytes)), ?_, ?_, ?_⟩
    . rw [parse_completeLines, ← hfront, recordsOf, List.filterMap_append, labelled_append]
      rfl
    . rw [map_bare_labelled, map_bare_labelled]
    . intro i hi
      rw [isSettled_labelled] at hi
      exact getElem?_labelled_eq _ _ hi

theorem parse_nil (fromFileStart : Bool) : parse (decodeLossy []) fromFileStart = [] := by
  rw [parse_decodeLossy]
  cases fromFileStart <;> rfl

section

variable {log : MemoryLog}

theorem serve_latestRange (h : 0 < log.size)
    : log.serve latestRange
        = .ok ⟨log.size - tailBytes, log.bytes.drop (log.size - tailBytes), log.size⟩ := by
  have hall : log.window (log.size - tailBytes) log.size
      = log.bytes.drop (log.size - tailBytes) := by
    unfold MemoryLog.window
    apply List.take_of_length_le
    rw [List.length_drop]
    exact Nat.le_refl _
  have hlt : log.size - tailBytes < log.size := Nat.sub_lt h (by decide)
  rw [MemoryLog.serve_eq_ok]
  exact ⟨hlt, by rw [← hall]; rfl⟩

theorem latest_of_empty (h : log.size = 0) : latest (log.serve latestRange) = .ok [] := by
  have hbounds : (MemoryLog.bounds log.size latestRange).2
      ≤ (MemoryLog.bounds log.size latestRange).1 := by
    rw [h]
    decide
  rw [MemoryLog.serve_eq_error hbounds]
  rfl

theorem latest_of_long (h : tailBytes < log.size)
    : latest (log.serve latestRange)
        = .ok (parse (decodeLossy (log.bytes.drop (log.size - tailBytes))) false) := by
  have hcut : (log.size - tailBytes == 0) = false := by
    rw [beq_eq_false_iff_ne]
    omega
  rw [serve_latestRange (by omega), latest, hcut]

/-- The records at the end of an index are all of them, if the index is no longer than what is read
of it. Of a longer one they are those of its last complete lines. -/
theorem latest_agrees (log : MemoryLog)
    : (log.size = 0 → latest (log.serve latestRange) = .ok [])
        ∧ (log.size ≤ tailBytes
          → latest (log.serve latestRange) = .ok (parse (decodeLossy log.bytes) true))
        ∧ (tailBytes < log.size
          → ∃ records, latest (log.serve latestRange) = .ok records
            ∧ AgreesFrom (log.size - tailBytes) log.bytes records) := by
  refine ⟨latest_of_empty, ?_, ?_⟩
  . intro hle
    cases Nat.eq_zero_or_pos log.size with
    | inl hzero =>
      rw [latest_of_empty hzero, List.length_eq_zero_iff.mp hzero, parse_nil]
    | inr hpos =>
      rw [serve_latestRange hpos, Nat.sub_eq_zero_of_le hle]
      rfl
  . intro hlt
    exact ⟨_, latest_of_long hlt, agreesFrom_parse (log.size - tailBytes) log.bytes⟩

/-- An index with a line between others that is as long as the part that is read of it leaves room
for. -/
def withLongLine (earlier later : List UInt8) : MemoryLog :=
  ⟨earlier ++ (List.replicate (tailBytes - later.length - 1) 0x78 ++ 0x0A :: later)⟩

theorem size_withLongLine {later : List UInt8} (h : later.length < tailBytes)
    (earlier : List UInt8)
    : (withLongLine earlier later).size = earlier.length + tailBytes := by
  unfold MemoryLog.size withLongLine
  rw [List.length_append, List.length_append, List.length_cons, List.length_replicate]
  omega

/-- Nothing is read of the long line, nor of what stands before it. -/
theorem parse_withLongLine (earlier later : List UInt8)
    : parse (decodeLossy ((withLongLine earlier later).bytes.drop earlier.length)) false
        = labelled none ((later.splitOn 0x0A).dropLast.filterMap recordOf) := by
  have hlong : 0x0A ∉ List.replicate (tailBytes - later.length - 1) (0x78 : UInt8) := by
    intro h
    exact absurd (List.eq_of_mem_replicate h) (by decide)
  unfold withLongLine
  rw [parse_linesBehind, linesBehind_append later hlong, recordsOf_placed]

/-- The first line of an index. -/
def earlierLine : List UInt8 :=
  Text.Utf8.encode
    "[\"t1\",\"d1\",\x7b\"variant\":\"Role\",\"fields\":[\"web\",\"s1\",0]\x7d,\"RoleStart\"]\n".toList

/-- The last lines of the index. -/
def laterLines : List UInt8 :=
  Text.Utf8.encode <| List.flatMap String.toList [
    "[\"t2\",\"d1\",\x7b\"variant\":\"External\",\"fields\":[\"nginx\",3]\x7d,\"ExternalLog\"]\n",
    "[\"t3\",\"d1\",\x7b\"variant\":\"Role\",\"fields\":[\"web\",\"s1\",9]\x7d,\"RoleFinish\"]\n",
    "[\"t4\",\"d2\",\x7b\"variant\":\"Role\",\"fields\":[\"db\",\"s2\",0]\x7d,\"RoleStart\"]\n",
    "[\"t5\",\"d2\",\x7b\"variant\":\"External\",\"fields\":[\"nginx\",8]\x7d,\"ExternalLog\"]\n"]

/-- Of a long index the last lines are read. The role that was started before them is not known, but
the one that is started among them is. -/
theorem latest_agrees_two_roles
    : let log := withLongLine earlierLine laterLines
      tailBytes < log.size
        ∧ latest (log.serve latestRange)
          = .ok [⟨"t2", "d1", .external "nginx" 3, .externalLog, none⟩,
              ⟨"t3", "d1", .role "web" "s1" 9, .roleFinish, none⟩,
              ⟨"t4", "d2", .role "db" "s2" 0, .roleStart, some "db"⟩,
              ⟨"t5", "d2", .external "nginx" 8, .externalLog, some "db"⟩]
        ∧ ∃ records, latest (log.serve latestRange) = .ok records
          ∧ AgreesFrom earlierLine.length log.bytes records := by
  intro log
  have hearlier : 0 < earlierLine.length := by decide +kernel
  have hlater : laterLines.length < tailBytes := by decide +kernel
  have hsize : log.size = earlierLine.length + tailBytes := size_withLongLine hlater earlierLine
  have hlong : tailBytes < log.size := by omega
  have hcut : log.size - tailBytes = earlierLine.length := by omega
  obtain ⟨_, _, hagrees⟩ := latest_agrees log
  have hrecords := hagrees hlong
  rw [hcut] at hrecords
  refine ⟨hlong, ?_, hrecords⟩
  rw [latest_of_long hlong, hcut, parse_withLongLine]
  decide +kernel

end

end RangeTail.Index
