import RangeTail.Proofs.Tail.Dispatch

/-!
This module contains tails that keep account of the requests they make. The instructions are
numbered as they are given, and every request is entered together with the instruction that it was
made by. The account shows that the instructions are carried out in the order in which they are
given, each of them once or never.
-/

namespace RangeTail

namespace Tail

/-- The range that is asked for by a move, if a request is on its way after it that was not before. -/
def request? (t : Tail) (now : Nat) (m : Move) : Option ByteRange :=
  if t.isFetching && !m.isAnswer then none else (t.after now m).inFlight.map (·.range)

variable {t : Tail} {now : Nat} {m : Move}

theorem request?_of_isFetching (h : t.isFetching) (hm : m.isAnswer = false)
    : t.request? now m = none := by
  simp [request?, h, hm]

theorem request?_of_sends {d : Option Directive} (h : (t.after now m).Sends now d)
    (hm : t.isFetching → m.isAnswer)
    : t.request? now m
        =
      some (nextRange (t.after now m).snapshot d (t.after now m).config.chunkSize) := by
  unfold request?
  rw [h.inFlight]
  cases hfetching : t.isFetching <;> simp_all

theorem request?_of_waiting (h : (t.after now m).isFetching → t.isFetching ∧ ¬ m.isAnswer)
    : t.request? now m = none := by
  unfold request?
  unfold isFetching at *
  cases hinFlight : (t.after now m).inFlight <;> simp_all

end Tail

/-- An instruction, and the number of those that were given before it. -/
structure Order where
  number : Nat
  directive : Directive
  deriving DecidableEq

/-- A request that was made, and the order that it was made by. -/
structure Entry where
  range : ByteRange
  order : Option Order
  deriving DecidableEq

structure Account where
  tail : Tail
  /-- The number of orders that were given. -/
  given : Nat
  /-- The order that no request was made by so far. -/
  waiting : Option Order
  entries : List Entry

namespace Account

/-- The account of a tail that is made with an instruction or without one. -/
def ofTail (t : Tail) : Account where
  tail := t
  given := 1
  waiting := t.pending.map (⟨0, ·⟩)
  entries := []

/-- The order that a move gives. -/
def order? (a : Account) (m : Tail.Move) : Option Order :=
  (a.tail.directive? m).map (⟨a.given, ·⟩)

/-- The order that waits after a move, until a request is made by it. -/
def waits (a : Account) (m : Tail.Move) : Option Order :=
  if a.tail.revokes m then none else (a.order? m).or a.waiting

def after (a : Account) (now : Nat) (m : Tail.Move) : Account where
  tail := a.tail.after now m
  given := a.given + (a.order? m).toList.length
  waiting := if (a.tail.request? now m).isSome then none else a.waits m
  entries := a.entries ++ ((a.tail.request? now m).map (⟨·, a.waits m⟩)).toList

/-- What an account becomes by things that are allowed to happen. -/
inductive Run (allowed : Tail.Move → Prop) (a : Account) : Account → Prop
  | refl : Run allowed a a
  | next {b : Account} (now : Nat) (m : Tail.Move) :
      Run allowed a b → allowed m → b.tail.CanHappen m → Run allowed a (b.after now m)

/-- The orders that requests were made by. -/
def carried (a : Account) : List Order :=
  a.entries.filterMap (·.order)

/-- The orders that requests were made by, and the one that waits. -/
def orders (a : Account) : List Order :=
  a.carried ++ a.waiting.toList

/-- The account agrees with the tail, and no order has the number of another one. -/
structure IsBalanced (a : Account) : Prop where
  waiting : a.waiting.map (·.directive) = a.tail.pending
  ordered : (a.orders.map (·.number)).Pairwise (· < ·)
  given : ∀ o ∈ a.orders, o.number < a.given

variable {a b c : Account} {now : Nat} {m : Tail.Move} {o : Order}

theorem carried_after
    : (a.after now m).carried
        =
      a.carried ++ (if (a.tail.request? now m).isSome then a.waits m else none).toList := by
  unfold carried after
  rw [List.filterMap_append]
  congr 1
  cases a.tail.request? now m with
  | none => rfl
  | some r => cases a.waits m <;> simp

theorem orders_after : (a.after now m).orders = a.carried ++ (a.waits m).toList := by
  unfold orders
  rw [carried_after, List.append_assoc]
  congr 1
  unfold after
  cases a.tail.request? now m <;> simp

theorem orders_after_sublist : (a.after now m).orders.Sublist (a.orders ++ (a.order? m).toList) := by
  rw [orders_after]
  unfold orders
  rw [List.append_assoc]
  apply List.Sublist.append_left
  unfold waits
  split
  . apply List.nil_sublist
  . cases a.order? m with
    | none => simp
    | some o => apply List.sublist_append_right

theorem number_of_mem_order? (h : o ∈ (a.order? m).toList) : o.number = a.given := by
  simp only [order?, Option.mem_toList, Option.map_eq_some_iff] at h
  obtain ⟨d, _, rfl⟩ := h
  rfl

theorem waits_directive (h : a.waiting.map (·.directive) = a.tail.pending)
    : (a.waits m).map (·.directive) = a.tail.waits m := by
  unfold waits Tail.waits order?
  rw [← h]
  cases a.tail.revokes m <;> cases a.tail.directive? m <;> rfl

theorem waiting_after (h : a.waiting.map (·.directive) = a.tail.pending)
    : (a.after now m).waiting.map (·.directive) = (a.tail.after now m).pending := by
  unfold after
  dsimp only
  cases a.tail.after_dispatch now m with
  | sent hsends hm =>
    rw [Tail.request?_of_sends hsends hm, hsends.pending]
    rfl
  | waiting hpending hfetching =>
    rw [Tail.request?_of_waiting hfetching, hpending, ← waits_directive h]
    rfl

theorem isBalanced_ofTail (t : Tail) : (ofTail t).IsBalanced := by
  unfold ofTail
  constructor
  . cases t.pending <;> rfl
  . cases t.pending <;> simp [orders, carried]
  . cases t.pending <;> simp [orders, carried]

theorem IsBalanced.after (h : a.IsBalanced) (now : Nat) (m : Tail.Move)
    : (a.after now m).IsBalanced where
  waiting := waiting_after h.waiting
  ordered := by
    -- the order that a move gives has a number that none of those before it has reached
    have hsub := (@orders_after_sublist a now m).map (·.number)
    apply List.Pairwise.sublist hsub
    rw [List.map_append, List.pairwise_append]
    refine ⟨h.ordered, ?_, ?_⟩
    . cases a.order? m <;> simp
    . intro i hi j hj
      simp only [List.mem_map] at hi hj
      obtain ⟨o, ho, rfl⟩ := hi
      obtain ⟨o', ho', rfl⟩ := hj
      rw [number_of_mem_order? ho']
      exact h.given o ho
  given := by
    intro o ho
    have hmem := orders_after_sublist.subset ho
    unfold Account.after
    dsimp only
    rw [List.mem_append] at hmem
    cases hmem with
    | inl hold =>
      have := h.given o hold
      omega
    | inr hnew =>
      have := List.length_pos_of_mem hnew
      rw [number_of_mem_order? hnew]
      omega

theorem isBalanced_of_run {allowed : Tail.Move → Prop} (h : a.IsBalanced) (hrun : Run allowed a b)
    : b.IsBalanced := by
  induction hrun with
  | refl => exact h
  | next now m _ _ _ ih => exact ih.after now m

theorem IsBalanced.nodup (h : a.IsBalanced) : a.orders.Nodup := by
  apply (List.pairwise_map.mp h.ordered).imp
  intro o o' hlt heq
  rw [heq] at hlt
  omega

/-- An order that neither waits nor was carried out in time is never carried out. -/
theorem not_mem_orders_of_run {allowed : Tail.Move → Prop} (hrun : Run allowed a b)
    (hgiven : o.number < a.given) (h : o ∉ a.orders)
    : o ∉ b.orders := by
  -- a later order is another one, as its number is at least the number of orders given so far
  have : o.number < b.given ∧ o ∉ b.orders := by
    induction hrun with
    | refl => exact ⟨hgiven, h⟩
    | @next b now m _ _ _ ih =>
      constructor
      . apply Nat.lt_of_lt_of_le ih.1
        apply Nat.le_add_right
      . intro hmem
        have := orders_after_sublist.subset hmem
        rw [List.mem_append] at this
        cases this with
        | inl hold => exact ih.2 hold
        | inr hnew =>
          have := number_of_mem_order? hnew
          omega
  exact this.2

theorem carried_of_run {allowed : Tail.Move → Prop} (hrun : Run allowed a b)
    : a.carried <+: b.carried := by
  induction hrun with
  | refl => exact List.prefix_rfl
  | next now m _ _ _ ih =>
    rw [carried_after]
    apply ih.trans
    apply List.prefix_append

/-- An order that was carried out is not carried out again. -/
theorem count_carried_of_run {allowed : Tail.Move → Prop} (h : a.IsBalanced)
    (hrun : Run allowed a b) (ho : o ∈ a.carried)
    : b.carried.count o = 1 := by
  have hnodup : b.carried.Nodup := by
    have := (isBalanced_of_run h hrun).nodup
    unfold orders at this
    exact (List.nodup_append.mp this).1
  have hle := List.nodup_iff_count.mp hnodup o
  have hpos := List.count_pos_iff.mpr ((carried_of_run hrun).subset ho)
  omega

end Account
end RangeTail
