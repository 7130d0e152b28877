import RangeTail.Proofs.Text.Decimal
import RangeTail.Proofs.Url.Form
import RangeTail.QueryStore

/-!
This module contains the proof that a store of values gives back what was put into it last, be it held
in memory or in the query of a URL, and has nothing under a key that was taken out. A position that is
noted in a store is read back as the position that it was.
-/

namespace RangeTail

namespace QueryStore

variable (s : QueryStore) (key value : String)

@[simp]
theorem pairs_withPairs (ps : List (String × String)) : (s.withPairs ps).pairs = ps := by
  cases s with
  | memory => rfl
  | address u => apply Url.pairs_withPairs

theorem withPairs_withPairs (ps : List (String × String))
    : (s.withPairs ps).withPairs ps = s.withPairs ps := by
  cases s with
  | memory => rfl
  | address u =>
    dsimp only [withPairs]
    rw [Url.withPairs_withPairs]

theorem lookup_others : (s.others key).lookup key = none := by
  rw [List.lookup_eq_none_iff]
  intro p hp
  have hne := (List.mem_filter.mp hp).2
  simp only [ne_eq, decide_not, Bool.not_eq_true', decide_eq_false_iff_not] at hne
  simp [Ne.symm hne]

theorem get?_set : (s.set key value).get? key = some value := by
  simp [set, get?, List.lookup_append, lookup_others]

theorem get?_remove : (s.remove key).get? key = none := by
  simp [remove, get?, lookup_others]

theorem remove_remove : (s.remove key).remove key = s.remove key := by
  have hothers : (s.remove key).others key = s.others key := by
    simp [remove, others]
  unfold remove at *
  rw [hothers, withPairs_withPairs]

end QueryStore

namespace OffsetParam

variable (p : OffsetParam)

theorem value?_clear : p.clear.value? = none := by
  apply QueryStore.get?_remove

theorem clear_clear : p.clear.clear = p.clear := by
  unfold clear
  rw [QueryStore.remove_remove]

theorem offset?_of_value? {n : Nat} (hvalue : p.value? = some (toString n)) (hle : n ≤ maxOffset)
    : p.offset? = some n := by
  unfold offset?
  rw [hvalue, Option.bind_some]
  apply Text.readOffset_toString hle

end OffsetParam

/-! Positions in a store -/

/-- A store of any kind after positions were noted in it, one after the other. -/
def noted {σ : Type} (set : σ → String → String → σ) (name : String) (notes : List Nat) (s : σ) : σ :=
  notes.foldl (fun s n => set s name (toString n)) s

section

variable {σ : Type} {set : σ → String → String → σ} {get : σ → String → Option String}
variable {name : String} {notes more : List Nat} {s : σ} {n : Nat}

theorem noted_append : noted set name (notes ++ more) s = noted set name more (noted set name notes s) :=
  List.foldl_append

/-- A store that gives back what was put into it last has the position that was noted last. -/
theorem get_noted (hset : ∀ s value, get (set s name value) name = some value)
    (hlast : notes.getLast? = some n)
    : get (noted set name notes s) name = some (toString n) := by
  obtain ⟨earlier, rfl⟩ := List.getLast?_eq_some_iff.mp hlast
  rw [noted_append]
  apply hset

end

end RangeTail
