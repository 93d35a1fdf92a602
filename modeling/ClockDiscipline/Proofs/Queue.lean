import ClockDiscipline.Queue.Ring
import Mathlib.Data.Nat.ModEq

/-!
What a queue holds. Its contents are a list, and every operation on the slots is one on
that list.
-/

namespace ClockDiscipline.Ring

universe u

variable {α : Type u} (ring : Ring α)

/-- Places behind the head that lie less than a round apart belong to different slots. -/
private theorem place_ne_of_lt (head : Nat) {size early late : Nat}
    (before : early < late)
    (within : late < size) : (head + late) % size ≠ (head + early) % size := by
  intro equal
  have congruent : early ≡ late [MOD size] := Nat.ModEq.add_left_cancel' head equal.symm
  exact Nat.ne_of_lt before (congruent.eq_of_lt_of_lt (Nat.lt_trans before within) within)

private theorem oldest_succ (amount : Nat) : ring.oldest (amount + 1) =
    ring.oldest amount ++ ring.slots[(ring.head + amount) % ring.slots.size]?.toList := by
  cases found : ring.slots[(ring.head + amount) % ring.slots.size]? <;>
    simp [oldest, List.range_succ, found]

private theorem length_oldest {amount : Nat} (within : amount ≤ ring.slots.size) :
    (ring.oldest amount).length = amount := by
  induction amount with
  | zero => rfl
  | succ amount induction =>
      have place : (ring.head + amount) % ring.slots.size < ring.slots.size :=
        Nat.mod_lt _ (by omega)
      rw [oldest_succ, List.length_append, induction (by omega),
        Array.getElem?_eq_getElem place]
      rfl

@[simp] theorem length_toList : ring.toList.length = ring.count :=
  ring.length_oldest ring.count_le

@[simp] theorem toList_flush : ring.flush.toList = [] := rfl

@[simp] theorem capacity_empty [Inhabited α] (capacity : Nat) :
    (empty capacity : Ring α).capacity = capacity := by
  simp [empty, Ring.capacity]

/-! ## Insertion -/

@[simp] theorem capacity_append (item : α) :
    (ring.append item).capacity = ring.capacity := by
  unfold append capacity
  split
  · simp
  · rfl

theorem count_append {item : α} (free : ring.count < ring.capacity) :
    (ring.append item).count = ring.count + 1 := by
  have room : ring.count < ring.slots.size := free
  simp [append, room]

private theorem toList_append {item : α} (free : ring.count < ring.capacity) :
    (ring.append item).toList = ring.toList ++ [item] := by
  have room : ring.count < ring.slots.size := free
  have place : (ring.head + ring.count) % ring.slots.size < ring.slots.size :=
    Nat.mod_lt _ (by omega)
  -- The place of the new item is none of the places that hold the others.
  have kept : ∀ amount ≤ ring.count,
      (ring.append item).oldest amount = ring.oldest amount := by
    intro amount
    induction amount with
    | zero => exact fun _ => rfl
    | succ amount induction =>
        intro within
        have distinct := place_ne_of_lt ring.head (Nat.lt_of_succ_le within) room
        rw [oldest_succ, oldest_succ, induction (Nat.le_of_succ_le within)]
        simp [append, room, distinct]
  rw [toList, count_append ring free, oldest_succ, kept ring.count (Nat.le_refl _),
    toList]
  simp [append, room, place]

theorem foldl_append (items : List α) :
    ∀ ring : Ring α, ring.count + items.length ≤ ring.capacity →
      (items.foldl append ring).toList = ring.toList ++ items ∧
        (items.foldl append ring).capacity = ring.capacity := by
  induction items with
  | nil => simp
  | cons item rest induction =>
      intro ring fits
      rw [List.length_cons] at fits
      have free : ring.count < ring.capacity := by omega
      have follows := induction (ring.append item) (by
        rw [capacity_append, count_append ring free]
        omega)
      rw [List.foldl_cons, follows.1, follows.2, toList_append ring free, capacity_append]
      simp

theorem push_eq_enqueue (item : α) : ring.push item = ring.enqueue [item] := by
  unfold push enqueue
  by_cases full : ring.available = 0
  · simp [full]
  · have fits : 1 ≤ ring.available := by omega
    simp [full, fits]

theorem enqueue_of_fits {items : List α} (fits : items.length ≤ ring.available) :
    (ring.enqueue items).1 = .ok () ∧
      (ring.enqueue items).2.toList = ring.toList ++ items ∧
      (ring.enqueue items).2.capacity = ring.capacity := by
  have enough : ring.count + items.length ≤ ring.capacity := by
    have bounded : ring.count ≤ ring.capacity := ring.count_le
    unfold available at fits
    omega
  rw [enqueue, if_pos fits]
  exact ⟨rfl, foldl_append items ring enough⟩

theorem capacity_enqueue (items : List α) :
    (ring.enqueue items).2.capacity = ring.capacity := by
  by_cases fits : items.length ≤ ring.available
  · exact (ring.enqueue_of_fits fits).2.2
  · rw [enqueue, if_neg fits]
    rfl

/-- An item that finds the queue full empties it and is lost. -/
theorem toList_push (item : α) : (ring.push item).2.toList =
    if ring.toList.length < ring.capacity then ring.toList ++ [item] else [] := by
  have bounded : ring.count ≤ ring.capacity := ring.count_le
  rw [length_toList, push, available]
  by_cases free : ring.count < ring.capacity
  · rw [if_neg (by omega), if_pos free, ring.toList_append free]
  · rw [if_pos (by omega), if_neg free, toList_flush]

theorem toList_enqueue_of_isOk {items : List α}
    (accepted : (ring.enqueue items).1.isOk = true) :
    (ring.enqueue items).2.toList = ring.toList ++ items := by
  by_cases fits : items.length ≤ ring.available
  · exact (ring.enqueue_of_fits fits).2.1
  · rw [enqueue, if_neg fits] at accepted
    cases accepted

theorem toList_push_of_isOk {item : α} (accepted : (ring.push item).1.isOk = true) :
    (ring.push item).2.toList = ring.toList ++ [item] := by
  rw [push_eq_enqueue] at accepted ⊢
  exact ring.toList_enqueue_of_isOk accepted

theorem capacity_push (item : α) : (ring.push item).2.capacity = ring.capacity := by
  unfold push
  split
  · rfl
  · exact ring.capacity_append item

/-! ## Removal -/

private theorem oldest_add (first rest : Nat) : ring.oldest (first + rest) =
    ring.oldest first ++ (List.range rest).filterMap fun offset =>
      ring.slots[(ring.head + first + offset) % ring.slots.size]? := by
  rw [oldest, List.range_add, List.filterMap_append, List.filterMap_map, oldest]
  simp only [Function.comp_def, Nat.add_assoc]

/-- What a removal takes was in front of what it leaves. -/
theorem dequeue_append (limit : Nat) :
    (ring.dequeue limit).1 ++ (ring.dequeue limit).2.toList = ring.toList := by
  have parts : ring.toList =
      ring.oldest (min limit ring.count + (ring.count - min limit ring.count)) := by
    rw [toList]
    congr
    omega
  rw [parts, oldest_add]
  simp [dequeue, toList, oldest]

private theorem length_dequeue (limit : Nat) :
    (ring.dequeue limit).1.length = min limit ring.count := by
  have bounded := ring.count_le
  apply length_oldest
  omega

theorem items_dequeue (limit : Nat) :
    (ring.dequeue limit).1 = ring.toList.take limit := by
  rw [List.take_eq_take_min, length_toList, ← ring.dequeue_append limit, ← length_dequeue,
    List.take_left]

theorem toList_dequeue (limit : Nat) :
    (ring.dequeue limit).2.toList = ring.toList.drop limit := by
  have parts := ring.dequeue_append limit
  rw [items_dequeue] at parts
  apply List.append_cancel_left
  rw [parts, List.take_append_drop]

private theorem head_mod_size : ring.head % ring.slots.size = ring.head := by
  rcases ring.head_lt with bare | within
  · rw [bare, Nat.mod_zero]
  · exact Nat.mod_eq_of_lt within

theorem dequeue_zero : ring.dequeue 0 = ([], ring) := by
  simp [dequeue, oldest, ring.head_mod_size]

theorem dequeue_of_count_eq_zero (limit : Nat) (idle : ring.count = 0) :
    ring.dequeue limit = ([], ring) := by
  rw [← ring.dequeue_zero]
  simp [dequeue, idle]

theorem dequeue_of_count_le {limit : Nat} (enough : ring.count ≤ limit) :
    ring.dequeue limit = ring.dequeue ring.count := by
  simp [dequeue, enough]

/-- To remove items in two goes is to remove them at once. -/
theorem dequeue_add (first rest : Nat) : ring.dequeue (first + rest) =
    ((ring.dequeue first).1 ++ ((ring.dequeue first).2.dequeue rest).1,
      ((ring.dequeue first).2.dequeue rest).2) := by
  have amount : min (first + rest) ring.count =
      min first ring.count + min rest (ring.count - min first ring.count) := by omega
  simp only [dequeue, amount, oldest_add]
  simp [oldest, Nat.add_assoc, Nat.sub_sub]

theorem pop_eq_dequeue : ring.pop = ((ring.dequeue 1).1.head?, (ring.dequeue 1).2) := by
  by_cases occupied : 0 < ring.count
  · have bounded := ring.count_le
    have within : ring.head < ring.slots.size := by
      have placed := ring.head_lt
      omega
    have single : min 1 ring.count = 1 := by omega
    simp [pop, dequeue, occupied, single, oldest, List.range_succ,
      Nat.mod_eq_of_lt within, within]
  · rw [ring.dequeue_of_count_eq_zero 1 (by omega)]
    simp [pop, occupied]

theorem items_dequeue_count : (ring.dequeue ring.count).1 = ring.toList := by
  simp [dequeue, toList]

theorem count_dequeue_count : (ring.dequeue ring.count).2.count = 0 := by
  simp [dequeue]

@[simp] theorem isEmpty_iff : ring.isEmpty = true ↔ ring.toList = [] := by
  rw [isEmpty, beq_iff_eq, ← length_toList, List.length_eq_zero_iff]

theorem toList_of_count_eq_zero (empty : ring.count = 0) : ring.toList = [] := by
  rw [toList, empty]
  rfl

end ClockDiscipline.Ring
