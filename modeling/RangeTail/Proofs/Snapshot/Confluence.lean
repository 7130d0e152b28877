import RangeTail.Proofs.Log.Window

/-!
This module contains the proof that the order does not matter in which the chunks of a file are
read, as long as each leaves no gap to what is held when it is read: the window is in the end what
all of them hold together, and its text is the one of that window.
-/

namespace RangeTail

/-- Where the bytes begin that are held of a file from `start` on and in the chunks. -/
def firstOf (start : Nat) (chunks : List Chunk) : Nat :=
  chunks.foldl (fun first c => min first c.offset) start

/-- Where the bytes end that are held of a file up to `stop` and in the chunks. -/
def lastOf (stop : Nat) (chunks : List Chunk) : Nat :=
  chunks.foldl (fun last c => max last c.stop) stop

section

variable {chunks chunks' : List Chunk}

theorem firstOf_perm (h : chunks.Perm chunks') (start : Nat)
    : firstOf start chunks = firstOf start chunks' := by
  apply h.foldl_eq'
  intro c _ d _ first
  rw [Nat.min_assoc, Nat.min_assoc, Nat.min_comm c.offset]

theorem lastOf_perm (h : chunks.Perm chunks') (stop : Nat)
    : lastOf stop chunks = lastOf stop chunks' := by
  apply h.foldl_eq'
  intro c _ d _ last
  rw [Nat.max_assoc, Nat.max_assoc, Nat.max_comm c.stop]

end

namespace Snapshot

/-- The snapshot after the chunks were read one by one. -/
def mergeAll (s : Snapshot) (chunks : List Chunk) : Snapshot :=
  chunks.foldl merge s

/-- Each of the chunks leaves no gap to the window that those before it have made. -/
def TouchesAll (s : Snapshot) : List Chunk → Prop
  | [] => True
  | c :: chunks => s.Touches c ∧ (s.merge c).TouchesAll chunks

/-- The snapshot holds the bytes of the file from `start` up to `stop`, and shows their text. -/
structure Views (s : Snapshot) (file : MemoryLog) (start stop : Nat) : Prop where
  holds : s.Holds file start stop
  textOffset : s.textOffset = some (TextView.ofWindow start (file.window start stop)).offset
  text : s.text = (TextView.ofWindow start (file.window start stop)).text
  decodeError : s.decodeError = (TextView.ofWindow start (file.window start stop)).isBroken

variable {s : Snapshot} {file : MemoryLog} {start stop first last : Nat} {c : Chunk}
variable {chunks chunks' : List Chunk}

theorem merge_eq_holding (h : (s.merge c).Holds file first last) (hc : c.IsOf file)
    : s.merge c = holding s.follow first (file.window first last) file.size := by
  have hoffset : (s.splice c).1 = first := Option.some.inj h.offset
  have hbytes : (s.splice c).2 = file.window first last := h.bytes
  have hsplice : s.splice c = (first, file.window first last) := Prod.ext hoffset hbytes
  rw [merge_of_splice hsplice, hc.total]

theorem views_holding (follow : Bool) (hstart : first ≤ last) (hlast : last ≤ file.size)
    : (holding follow first (file.window first last) file.size).Views file first last :=
  ⟨⟨rfl, rfl, hstart, hlast⟩, rfl, rfl, rfl⟩

/-- All there is in a snapshot that views a file, up to whether it is followed and what became of
the last request. -/
theorem Views.eq_holding (h : s.Views file start stop) (htotal : s.total = file.size)
    : { s with loading := false, failure := none }
        =
      holding s.follow start (file.window start stop) file.size := by
  unfold holding
  dsimp only
  rw [← h.holds.offset, ← h.textOffset, ← h.text, ← h.decodeError, ← h.holds.bytes, htotal]

theorem Holds.mergeAll (h : s.Holds file start stop) (hchunks : ∀ c ∈ chunks, c.IsOf file)
    (htouches : s.TouchesAll chunks)
    : (s.mergeAll chunks).Holds file (firstOf start chunks) (lastOf stop chunks) := by
  induction chunks generalizing s start stop with
  | nil => exact h
  | cons c chunks ih =>
    rw [List.forall_mem_cons] at hchunks
    obtain ⟨hfirst, hlast⟩ := h.touches_iff.mp htouches.1
    exact ih (h.merge_of_touches hchunks.1 hfirst hlast) hchunks.2 htouches.2

/-- Nothing but the beginning and the end of the window is left of the order of the chunks. -/
theorem Holds.mergeAll_cons (h : s.Holds file start stop) (hc : c.IsOf file)
    (hchunks : ∀ c ∈ chunks, c.IsOf file) (htouches : s.TouchesAll (c :: chunks))
    : s.mergeAll (c :: chunks)
        =
      holding s.follow (firstOf start (c :: chunks))
        (file.window (firstOf start (c :: chunks)) (lastOf stop (c :: chunks))) file.size := by
  obtain ⟨hfirst, hlast⟩ := h.touches_iff.mp htouches.1
  have hmerge := h.merge_of_touches hc hfirst hlast
  -- the text is made anew of the window with each chunk, so the window is all that is carried along
  induction chunks generalizing s start stop c with
  | nil => exact merge_eq_holding hmerge hc
  | cons d chunks ih =>
    rw [List.forall_mem_cons] at hchunks
    obtain ⟨hfirst', hlast'⟩ := hmerge.touches_iff.mp htouches.2.1
    exact ih hmerge hchunks.1 hchunks.2 htouches.2 hfirst' hlast'
      (hmerge.merge_of_touches hchunks.1 hfirst' hlast')

/-- Together with no gap between them, the window and the chunks hold all from the first position
to the last one. -/
theorem Holds.mem_union_iff (h : s.Holds file start stop) (hchunks : ∀ c ∈ chunks, c.IsOf file)
    (htouches : s.TouchesAll chunks) (p : Nat)
    : (firstOf start chunks ≤ p ∧ p < lastOf stop chunks)
        ↔
      (start ≤ p ∧ p < stop) ∨ ∃ c ∈ chunks, c.offset ≤ p ∧ p < c.stop := by
  induction chunks generalizing s start stop with
  | nil => simp [firstOf, lastOf]
  | cons c chunks ih =>
    rw [List.forall_mem_cons] at hchunks
    obtain ⟨hfirst, hlast⟩ := h.touches_iff.mp htouches.1
    -- two spans without a gap between them are the one from the smaller start to the larger end
    have hunion : (min start c.offset ≤ p ∧ p < max stop c.stop)
        ↔ (start ≤ p ∧ p < stop) ∨ (c.offset ≤ p ∧ p < c.stop) := by omega
    have hrest := ih (h.merge_of_touches hchunks.1 hfirst hlast) hchunks.2 htouches.2
    rw [hunion, or_assoc] at hrest
    simp only [List.mem_cons, exists_eq_or_imp]
    exact hrest

theorem total_mergeAll (htotal : s.total = file.size) (hchunks : ∀ c ∈ chunks, c.IsOf file)
    : (s.mergeAll chunks).total = file.size := by
  induction chunks generalizing s with
  | nil => exact htotal
  | cons c chunks ih =>
    rw [List.forall_mem_cons] at hchunks
    exact ih hchunks.1.total hchunks.2

theorem Holds.mergeAll_perm (h : s.Holds file start stop) (hchunks : ∀ c ∈ chunks, c.IsOf file)
    (hperm : chunks.Perm chunks') (htouches : s.TouchesAll chunks)
    (htouches' : s.TouchesAll chunks')
    : s.mergeAll chunks = s.mergeAll chunks' := by
  have hchunks' : ∀ c ∈ chunks', c.IsOf file := fun c hc => hchunks c (hperm.mem_iff.mpr hc)
  cases chunks with
  | nil => rw [hperm.nil_eq]
  | cons c chunks =>
    cases chunks' with
    | nil => exact absurd hperm.symm.nil_eq (List.cons_ne_nil c chunks).symm
    | cons d chunks' =>
      have hfirst := firstOf_perm hperm start
      have hlast := lastOf_perm hperm stop
      rw [List.forall_mem_cons] at hchunks hchunks'
      rw [h.mergeAll_cons hchunks.1 hchunks.2 htouches]
      rw [h.mergeAll_cons hchunks'.1 hchunks'.2 htouches', hfirst, hlast]

theorem Holds.views_mergeAll (h : s.Holds file start stop) (hchunks : ∀ c ∈ chunks, c.IsOf file)
    (htouches : s.TouchesAll chunks) (hviews : s.Views file start stop ∨ chunks ≠ [])
    : (s.mergeAll chunks).Views file (firstOf start chunks) (lastOf stop chunks) := by
  cases chunks with
  | nil => exact hviews.resolve_right (fun hne => hne rfl)
  | cons c chunks =>
    have hholds := h.mergeAll hchunks htouches
    rw [List.forall_mem_cons] at hchunks
    rw [h.mergeAll_cons hchunks.1 hchunks.2 htouches]
    exact views_holding s.follow hholds.start_le hholds.stop_le

theorem Views.merge_of_covered (h : s.Views file start stop) (htotal : s.total = file.size)
    (hc : c.IsOf file) (hfirst : start ≤ c.offset) (hlast : c.stop ≤ stop)
    : s.merge c = { s with loading := false, failure := none } := by
  have hle : c.offset ≤ c.stop := Nat.le_add_right _ _
  have hmerge := h.holds.merge_of_touches hc (by omega) (by omega)
  rw [Nat.min_eq_left hfirst, Nat.max_eq_left hlast] at hmerge
  rw [merge_eq_holding hmerge hc, h.eq_holding htotal]

/--
The chunks of a file are joined to a window of it in one order or another, such that each leaves no
gap to the window as it is then. The snapshot is the same in the end: it holds what the window and
the chunks hold together, and its text is the one of that. A chunk of what is held already changes
nothing of it.
-/
theorem merge_order_irrelevant (hs : s.Holds file start stop) (htotal : s.total = file.size)
    (hchunks : ∀ c ∈ chunks, c.IsOf file) (hperm : chunks.Perm chunks')
    (htouches : s.TouchesAll chunks) (htouches' : s.TouchesAll chunks')
    : s.mergeAll chunks = s.mergeAll chunks'
        ∧ (s.mergeAll chunks).total = file.size
        ∧ ∃ first last,
            (∀ p, (first ≤ p ∧ p < last)
                ↔
              (start ≤ p ∧ p < stop) ∨ ∃ c ∈ chunks, c.offset ≤ p ∧ p < c.stop)
            ∧ (s.mergeAll chunks).Holds file first last
            ∧ (s.Views file start stop ∨ chunks ≠ [] →
                (s.mergeAll chunks).Views file first last
                  ∧ ∀ c, c.IsOf file → first ≤ c.offset → c.stop ≤ last →
                      (s.mergeAll chunks).merge c
                        =
                      { s.mergeAll chunks with loading := false, failure := none }) := by
  have hresult := total_mergeAll htotal hchunks
  refine ⟨hs.mergeAll_perm hchunks hperm htouches htouches', hresult, firstOf start chunks,
    lastOf stop chunks, hs.mem_union_iff hchunks htouches, hs.mergeAll hchunks htouches, ?_⟩
  intro hviews
  have hall := hs.views_mergeAll hchunks htouches hviews
  exact ⟨hall, fun c hc hfirst hlast => hall.merge_of_covered hresult hc hfirst hlast⟩

/-- A file is read from its middle to both sides. -/
theorem merge_order_irrelevant_both_sides
    : let s := initial.merge ⟨2, [99, 10], 6⟩
      let file : MemoryLog := ⟨[97, 98, 99, 10, 100, 101]⟩
      s.mergeAll [⟨1, [98], 6⟩, ⟨3, [10, 100], 6⟩] = s.mergeAll [⟨3, [10, 100], 6⟩, ⟨1, [98], 6⟩]
        ∧ ∃ first last, (s.mergeAll [⟨1, [98], 6⟩, ⟨3, [10, 100], 6⟩]).Views file first last := by
  intro s file
  have hs : s.Holds file 2 4 := ⟨rfl, rfl, by decide, by decide⟩
  have hfront : Chunk.IsOf ⟨1, [98], 6⟩ file := ⟨rfl, by decide, rfl⟩
  have hback : Chunk.IsOf ⟨3, [10, 100], 6⟩ file := ⟨rfl, by decide, rfl⟩
  have hchunks : ∀ c ∈ [⟨1, [98], 6⟩, ⟨3, [10, 100], 6⟩], Chunk.IsOf c file := by
    intro c hc
    rw [List.mem_cons, List.mem_singleton] at hc
    rcases hc with rfl | rfl
    . exact hfront
    . exact hback
  obtain ⟨heq, _, first, last, _, _, hviews⟩ := merge_order_irrelevant hs rfl hchunks
    (.swap _ _ _) ⟨⟨2, 4, by decide⟩, ⟨1, 4, by decide⟩, trivial⟩
    ⟨⟨2, 4, by decide⟩, ⟨2, 5, by decide⟩, trivial⟩
  exact ⟨heq, first, last, (hviews (.inr (List.cons_ne_nil _ _))).1⟩

end Snapshot
end RangeTail
