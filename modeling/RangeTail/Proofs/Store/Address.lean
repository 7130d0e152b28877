import Mathlib.Data.List.Induction
import RangeTail.Proofs.Store.Values

/-!
This module contains the theory of a store in the query of a URL of the web. A value that is put under
a key, or taken out, changes neither what stands under other keys nor the order of it, and nothing of
the URL but its query.
-/

namespace RangeTail

namespace Url

/-- A URL of the web, as one can be read: its path has a root. -/
structure IsWeb (u : Url) : Prop where
  scheme : u.scheme = "http".toList ∨ u.scheme = "https".toList
  path : ∃ segments, u.path = .rooted segments

/-- A URL with other pairs in its query and nothing else changed. It has a query if and only if it has
pairs. -/
structure IsRewriting (u v : Url) (ps : List (String × String)) : Prop where
  pairs : v.pairs = ps
  rest : v = { u with query := v.query }
  query : v.query = none ↔ ps = []

section

variable {u v : Url} {ps : List (String × String)} {scheme s : List Char} {atEnd : Bool}

/-- What is read of the URL of a file is where a walk leads to. -/
theorem exists_walk_of_readFile (h : readFile s = .ok u) : ∃ host w, u = ofWalk host w := by
  unfold readFile at h
  simp only [bind, Except.bind, pure, Except.pure] at h
  split at h
  . exact ⟨_, _, (Except.ok.inj h).symm⟩
  . split at h
    . exact ⟨_, _, (Except.ok.inj h).symm⟩
    . split at h
      . exact ⟨_, _, (Except.ok.inj h).symm⟩
      . split at h
        . contradiction
        . split at h
          . exact ⟨_, _, (Except.ok.inj h).symm⟩
          . exact ⟨_, _, (Except.ok.inj h).symm⟩

theorem path_of_readHierarchy (h : readHierarchy scheme s atEnd = .ok u)
    : (∃ segments, u.path = .rooted segments) ∨ isSpecial u.scheme = false := by
  unfold readHierarchy at h
  simp only [bind, Except.bind, pure, Except.pure] at h
  split at h
  . split at h
    . contradiction
    . rw [← Except.ok.inj h]
      exact .inl ⟨_, rfl⟩
  . next hspecial =>
    split at h
    . split at h
      . contradiction
      . rw [← Except.ok.inj h]
        exact .inl ⟨_, rfl⟩
    . rw [← Except.ok.inj h]
      exact .inl ⟨_, rfl⟩
    . rw [← Except.ok.inj h]
      exact .inr (Bool.not_eq_true _ ▸ hspecial)

theorem path_of_parse {text : String} (h : parse text = .ok u)
    : (∃ segments, u.path = .rooted segments) ∨ isSpecial u.scheme = false := by
  unfold parse at h
  simp only [bind, Except.bind, pure, Except.pure] at h
  split at h
  . split at h
    . split at h
      . contradiction
      . next hread =>
        obtain ⟨host, w, rfl⟩ := exists_walk_of_readFile hread
        rw [← Except.ok.inj h]
        exact .inl ⟨_, rfl⟩
    . split at h
      . contradiction
      . next hread =>
        have hpath := path_of_readHierarchy hread
        rw [← Except.ok.inj h]
        exact hpath
  . contradiction

/-- What is read of a text is a URL of the web as soon as its scheme is one of the web. -/
theorem isWeb_of_parse {text : String} (h : parse text = .ok u)
    (hscheme : u.scheme = "http".toList ∨ u.scheme = "https".toList)
    : u.IsWeb := by
  refine ⟨hscheme, (path_of_parse h).resolve_right ?_⟩
  obtain hscheme | hscheme := hscheme <;> rw [hscheme] <;> decide

theorem IsWeb.isRewriting_withPairs (h : u.IsWeb) (ps : List (String × String))
    : u.IsRewriting (u.withPairs ps) ps := by
  obtain ⟨segments, hpath⟩ := h.path
  refine ⟨pairs_withPairs u ps, ?_, ?_⟩
  . unfold withPairs
    split
    . rw [hpath]
    . rfl
  . unfold withPairs
    split
    . next hps => simp [hps]
    . next hps => simp [hps]

theorem IsRewriting.isWeb (h : u.IsRewriting v ps) (hweb : u.IsWeb) : v.IsWeb := by
  rw [h.rest]
  exact ⟨hweb.scheme, hweb.path⟩

end

end Url

/-- A change of a store: what stands under a key is replaced by a value, or taken out. -/
structure Edit where
  key : String
  value? : Option String
  deriving DecidableEq, Repr

namespace Edit

/-- The value under a key after changes, from the one that was there before them. -/
def valueAfter (edits : List Edit) (key : String) (before : Option String) : Option String :=
  match (edits.filter (·.key = key)).getLast? with
  | some e => e.value?
  | none => before

end Edit

namespace QueryStore

/-- The store with a change. -/
def edit (s : QueryStore) (e : Edit) : QueryStore :=
  match e.value? with
  | some value => s.set e.key value
  | none => s.remove e.key

/-- The store with changes, one after the other. -/
def editAll (s : QueryStore) (edits : List Edit) : QueryStore :=
  edits.foldl edit s

variable {s : QueryStore} {u : Url} {key other : String}

theorem lookup_others_of_ne (h : other ≠ key) : (s.others key).lookup other = s.get? other := by
  unfold others get?
  induction s.pairs with
  | nil => rfl
  | cons p ps ih =>
    obtain ⟨k, v⟩ := p
    by_cases hk : k = key
    . have hne : (other == k) = false := by simpa [hk] using h
      rw [List.filter_cons_of_neg (by simpa using hk), ih, List.lookup_cons, hne]
    . rw [List.filter_cons_of_pos (by simpa using hk), List.lookup_cons, List.lookup_cons, ih]

theorem edit_eq (s : QueryStore) (e : Edit)
    : s.edit e = s.withPairs (s.others e.key ++ (e.value?.map (e.key, ·)).toList) := by
  obtain ⟨key, value?⟩ := e
  cases value? with
  | some value => rfl
  | none =>
    rw [Option.map_none, Option.toList_none, List.append_nil]
    rfl

theorem get?_edit (s : QueryStore) (e : Edit) (key : String)
    : (s.edit e).get? key = if e.key = key then e.value? else s.get? key := by
  rw [edit_eq, get?, pairs_withPairs, List.lookup_append]
  split
  . next h =>
    subst h
    rw [lookup_others]
    cases e.value? <;> simp
  . next h =>
    have hne : (key == e.key) = false := beq_eq_false_iff_ne.mpr (Ne.symm h)
    have hnone : (e.value?.map (e.key, ·)).toList.lookup key = none := by
      cases e.value? <;> simp [List.lookup_cons, hne]
    rw [lookup_others_of_ne (Ne.symm h), hnone, Option.or_none]

/-- A key holds what the last change of it left there. -/
theorem get?_editAll (s : QueryStore) (edits : List Edit) (key : String)
    : (s.editAll edits).get? key = Edit.valueAfter edits key (s.get? key) := by
  induction edits using List.reverseRecOn with
  | nil => rfl
  | append_singleton edits e ih =>
    have hconcat : s.editAll (edits ++ [e]) = (s.editAll edits).edit e := by
      rw [editAll, List.foldl_append]
      rfl
    rw [hconcat, get?_edit, ih]
    unfold Edit.valueAfter
    rw [List.filter_append]
    split
    . next h => simp [h]
    . next h => simp [h]

theorem exists_editAll (hweb : u.IsWeb) (edits : List Edit)
    : ∃ v, (address u).editAll edits = .address v ∧ v = { u with query := v.query } := by
  induction edits generalizing u with
  | nil => exact ⟨u, rfl, rfl⟩
  | cons e edits ih =>
    -- what the first change leaves is again a URL of the web, so the others can follow
    have hwrite := hweb.isRewriting_withPairs ((address u).others e.key
      ++ (e.value?.map (e.key, ·)).toList)
    obtain ⟨v, hv, hrest⟩ := ih (hwrite.isWeb hweb)
    refine ⟨v, ?_, ?_⟩
    . rw [editAll, List.foldl_cons, edit_eq]
      exact hv
    . rw [hwrite.rest] at hrest
      exact hrest

/-- The query of a URL of the web is a map from keys to values. To put a value under a key takes the
place of all pairs with this key and of nothing else: the other pairs stay, in their order, and so does
all of the URL that is not its query. To take the key out leaves the other pairs, and no query where
there are none. After any changes a key holds what the last change of it left there, and what it held
before if there was none. -/
theorem rewrites_own_pairs {u : Url} (hweb : u.IsWeb) (key value : String)
    : (∃ v, (address u).set key value = .address v
          ∧ u.IsRewriting v (u.pairs.filter (·.1 ≠ key) ++ [(key, value)]))
        ∧ ((address u).set key value).get? key = some value
        ∧ (∃ v, (address u).remove key = .address v
          ∧ u.IsRewriting v (u.pairs.filter (·.1 ≠ key)))
        ∧ ((address u).remove key).get? key = none
        ∧ (∀ other, other ≠ key →
          ((address u).set key value).get? other = (address u).get? other
            ∧ ((address u).remove key).get? other = (address u).get? other)
        ∧ ∀ edits, (∃ v, (address u).editAll edits = .address v ∧ v = { u with query := v.query })
          ∧ ∀ k, ((address u).editAll edits).get? k
            = Edit.valueAfter edits k ((address u).get? k) := by
  refine ⟨?_, get?_set _ _ _, ?_, get?_remove _ _, ?_, ?_⟩
  . exact ⟨_, rfl, hweb.isRewriting_withPairs _⟩
  . exact ⟨_, rfl, hweb.isRewriting_withPairs _⟩
  . intro other hne
    have hset := get?_edit (address u) ⟨key, some value⟩ other
    have hremove := get?_edit (address u) ⟨key, none⟩ other
    rw [if_neg (Ne.symm hne)] at hset hremove
    exact ⟨hset, hremove⟩
  . intro edits
    exact ⟨exists_editAll hweb edits, get?_editAll _ edits⟩

/-- A URL whose query has one key twice, a key with a sign that divides queries and a key without a
value. -/
def busyUrl : Url where
  scheme := "https".toList
  host := some (.name "logs.example".toList)
  path := .rooted ["v1".toList, "log".toList]
  query := some "offset=5&a%26b=1+2&offset=6&last".toList
  fragment := some "top".toList

theorem rewrites_own_pairs_busy
    : Url.parse "https://logs.example/v1/log?offset=5&a%26b=1+2&offset=6&last#top" = .ok busyUrl
        ∧ busyUrl.IsWeb
        ∧ ((address busyUrl).set "offset" "é=7 &").get? "offset" = some "é=7 &"
        ∧ ((address busyUrl).set "offset" "é=7 &").get? "a&b" = some "1 2"
        ∧ ((address busyUrl).remove "offset").get? "offset" = none := by
  have hparse : Url.parse "https://logs.example/v1/log?offset=5&a%26b=1+2&offset=6&last#top"
      = .ok busyUrl := by
    decide +kernel
  have hweb := Url.isWeb_of_parse hparse (.inr rfl)
  have hbefore : (address busyUrl).get? "a&b" = some "1 2" := by decide +kernel
  obtain ⟨_, hset, _, hremove, hothers, _⟩ := rewrites_own_pairs hweb "offset" "é=7 &"
  obtain ⟨hother, _⟩ := hothers "a&b" (by decide)
  exact ⟨hparse, hweb, hset, hother.trans hbefore, hremove⟩

end QueryStore
end RangeTail
