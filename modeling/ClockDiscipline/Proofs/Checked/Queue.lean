import ClockDiscipline.Proofs.Checked.Basic
import ClockDiscipline.Proofs.Queue

/-!
A queue as it is kept in storage. Each insertion and each removal finds its place by a
checked sum and a checked remainder. What a ring promises of its places and its items is
enough for all checks.
-/

namespace ClockDiscipline.Ring

variable {α : Type}

/-- The storage of a ring: the places of the next insertion and of the next removal are
numbers like any others, and nothing is promised of them. -/
structure Cells (α : Type) where
  slots : Array α
  write : Nat
  read : Nat
  count : Nat

namespace Cells

variable (cells : Cells α)

def flush : Cells α := { cells with write := 0, read := 0, count := 0 }

def withCount (count : Nat) : Cells α := { cells with count }

def available : Except Fault Nat := Checked.sub cells.slots.size cells.count

def next (place : Nat) : Except Fault Nat := do
  let behind ← Checked.add place 1
  Checked.mod behind cells.slots.size

/-- Write one item, which does not count yet. -/
def store (item : α) : Except Fault (Cells α) := do
  let slots ← Checked.write cells.slots cells.write item
  let write ← cells.next cells.write
  return { cells with slots, write }

def enqueue (items : List α) : Except Fault (Except Full Unit × Cells α) := do
  let available ← cells.available
  if items.length ≤ available then
    let stored ← items.foldlM store cells
    let count ← Checked.add cells.count items.length
    return (.ok (), stored.withCount count)
  else
    return (.error ⟨items.length, available, cells.slots.size⟩, cells.flush)

def push (item : α) : Except Fault (Except Full Unit × Cells α) := do
  let available ← cells.available
  if available = 0 then
    return (.error ⟨1, 0, cells.slots.size⟩, cells.flush)
  else
    let stored ← cells.store item
    let count ← Checked.add cells.count 1
    return (.ok (), stored.withCount count)

/-- Read items one after the other. They count until all of them are read. -/
def fetch : (amount : Nat) → Cells α → Except Fault (List α × Cells α)
  | 0, cells => return ([], cells)
  | amount + 1, cells => do
      let item ← Checked.read cells.slots cells.read
      let read ← cells.next cells.read
      let (items, cells) ← fetch amount { cells with read }
      return (item :: items, cells)

def dequeue (limit : Nat) : Except Fault (List α × Cells α) := do
  let amount := min limit cells.count
  let (items, fetched) ← cells.fetch amount
  let count ← Checked.sub cells.count amount
  return (items, fetched.withCount count)

def pop : Except Fault (Option α × Cells α) := do
  if cells.count = 0 then
    return (none, cells)
  else
    let item ← Checked.read cells.slots cells.read
    let read ← cells.next cells.read
    let count ← Checked.sub cells.count 1
    return (some item, { cells with read, count })

private theorem withCount_withCount (count other : Nat) :
    (cells.withCount count).withCount other = cells.withCount other := rfl

private theorem next_eq {place : Nat} (within : place < cells.slots.size)
    (small : cells.slots.size < unsignedLimit) :
    cells.next place = .ok ((place + 1) % cells.slots.size) := by
  have fits : place + 1 < unsignedLimit := by omega
  rw [next, Checked.add_eq fits]
  exact Checked.mod_eq (by omega)

private theorem fetch_eq (amount : Nat) :
    ∀ cells : Cells α, cells.read < cells.slots.size →
    cells.slots.size < unsignedLimit → cells.fetch amount =
      .ok ((List.range amount).filterMap fun offset =>
          cells.slots[(cells.read + offset) % cells.slots.size]?,
        { cells with read := (cells.read + amount) % cells.slots.size }) := by
  induction amount with
  | zero =>
      intro cells within small
      rw [Nat.add_zero, Nat.mod_eq_of_lt within]
      rfl
  | succ amount induction =>
      intro cells within small
      have after : (cells.read + 1) % cells.slots.size < cells.slots.size :=
        Nat.mod_lt _ (by omega)
      have place (offset : Nat) : ((cells.read + 1) % cells.slots.size + offset) %
          cells.slots.size = (cells.read + (offset + 1)) % cells.slots.size := by
        rw [Nat.mod_add_mod, Nat.add_right_comm, Nat.add_assoc]
      have follows :=
        induction { cells with read := (cells.read + 1) % cells.slots.size } after small
      simp only [place] at follows
      rw [fetch, Checked.read_eq within, cells.next_eq within small]
      simp only [bind, Except.bind, pure, Except.pure, follows, List.range_succ_eq_map,
        List.filterMap_cons, Nat.add_zero, Nat.mod_eq_of_lt within,
        Array.getElem?_eq_getElem within, List.filterMap_map]
      rfl

end Cells

/-! ## A ring in its storage -/

variable (ring : Ring α)

def cells : Cells α where
  slots := ring.slots
  write := (ring.head + ring.count) % ring.slots.size
  read := ring.head
  count := ring.count

private theorem withCount_count_cells :
    ring.cells.withCount ring.count = ring.cells := rfl

private theorem count_withCount (count : Nat) :
    (ring.cells.withCount count).count = count := rfl

theorem cells_flush : ring.flush.cells = ring.cells.flush := by
  simp [cells, Cells.flush, flush]

private theorem available_cells : ring.cells.available = .ok ring.available :=
  Checked.sub_eq ring.count_le

section Small

variable (small : ring.capacity < unsignedLimit)

include small

/-- Storing does as inserting does, whatever count is kept meanwhile. -/
private theorem store_cells (item : α) (count : Nat) (free : ring.count < ring.capacity) :
    (ring.cells.withCount count).store item =
      .ok ((ring.append item).cells.withCount count) := by
  have room : ring.count < ring.slots.size := free
  have place : (ring.head + ring.count) % ring.slots.size < ring.slots.size :=
    Nat.mod_lt _ (by omega)
  have written : Checked.write ring.slots _ item = .ok _ := Checked.write_eq place
  have behind :
      (ring.cells.withCount count).next ((ring.head + ring.count) % ring.slots.size) =
      .ok (((ring.head + ring.count) % ring.slots.size + 1) % ring.slots.size) :=
    Cells.next_eq _ place small
  simp only [Cells.store, Cells.withCount, cells, written, bind, Except.bind] at behind ⊢
  simp [behind, append, room, pure, Except.pure, Nat.add_assoc]

private theorem foldlM_store_cells (items : List α) (count : Nat)
    (fits : ring.count + items.length ≤ ring.capacity) :
    items.foldlM Cells.store (ring.cells.withCount count) =
      .ok ((items.foldl append ring).cells.withCount count) := by
  induction items generalizing ring with
  | nil => rfl
  | cons item rest induction =>
      rw [List.length_cons] at fits
      have free : ring.count < ring.capacity := by omega
      rw [List.foldlM_cons, ring.store_cells small item count free]
      refine induction (ring.append item) ?_ ?_
      · rwa [capacity_append]
      · rw [capacity_append, count_append ring free]
        omega

theorem enqueue_cells (items : List α) :
    ring.cells.enqueue items =
      .ok ((ring.enqueue items).1, (ring.enqueue items).2.cells) := by
  rw [Cells.enqueue, available_cells]
  simp only [bind, Except.bind]
  by_cases fits : items.length ≤ ring.available
  · have enough : ring.count + items.length ≤ ring.capacity := by
      have bounded : ring.count ≤ ring.capacity := ring.count_le
      unfold available at fits
      omega
    have stored := ring.foldlM_store_cells small items ring.count enough
    have counted : Checked.add ring.count items.length =
        .ok (ring.count + items.length) :=
      Checked.add_eq (by omega)
    have total : (items.foldl append ring).count = ring.count + items.length := by
      rw [← length_toList, (foldl_append items ring enough).1, List.length_append,
        length_toList]
    rw [enqueue, if_pos fits, if_pos fits, ← ring.withCount_count_cells, stored]
    simp only [count_withCount, counted]
    rw [← total, Cells.withCount_withCount, withCount_count_cells]
    rfl
  · rw [enqueue, if_neg fits, if_neg fits, cells_flush]
    rfl

theorem push_cells (item : α) :
    ring.cells.push item = .ok ((ring.push item).1, (ring.push item).2.cells) := by
  rw [Cells.push, available_cells]
  simp only [bind, Except.bind]
  by_cases full : ring.available = 0
  · rw [push, if_pos full, if_pos full, cells_flush]
    rfl
  · have free : ring.count < ring.capacity := by
      unfold available at full
      omega
    have stored := ring.store_cells small item ring.count free
    have counted : Checked.add ring.count 1 = .ok (ring.count + 1) :=
      Checked.add_eq (by omega)
    have longer : (ring.append item).count = ring.count + 1 := count_append ring free
    rw [push, if_neg full, if_neg full, ← ring.withCount_count_cells, stored]
    simp only [count_withCount, counted]
    rw [← longer, Cells.withCount_withCount, withCount_count_cells]
    rfl

private theorem fetch_cells (amount : Nat) (present : amount ≤ ring.count) :
    ring.cells.fetch amount =
      .ok (ring.oldest amount,
        { ring.cells with read := (ring.head + amount) % ring.slots.size }) := by
  rcases ring.head_lt with none | within
  · have nothing : amount = 0 := by
      have bounded := ring.count_le
      omega
    subst nothing
    simp [Cells.fetch, oldest, cells, none, pure, Except.pure]
  · exact Cells.fetch_eq amount ring.cells within small

theorem dequeue_cells (limit : Nat) :
    ring.cells.dequeue limit =
      .ok ((ring.dequeue limit).1, (ring.dequeue limit).2.cells) := by
  have within : min limit ring.count ≤ ring.count := Nat.min_le_right _ _
  have counted : Checked.sub ring.count (min limit ring.count) =
      .ok (ring.count - min limit ring.count) := Checked.sub_eq within
  have sum : ring.head + min limit ring.count + (ring.count - min limit ring.count) =
      ring.head + ring.count := by omega
  rw [Cells.dequeue]
  simp only [show ring.cells.count = ring.count from rfl,
    ring.fetch_cells small _ within, bind, Except.bind, counted]
  simp [dequeue, cells, Cells.withCount, pure, Except.pure, sum]

theorem pop_cells : ring.cells.pop = .ok (ring.pop.1, ring.pop.2.cells) := by
  have count : ring.cells.count = ring.count := rfl
  have bounded := ring.count_le
  unfold Cells.pop pop
  rw [count]
  by_cases occupied : 0 < ring.count
  · have within : ring.head < ring.slots.size := by
      have placed := ring.head_lt
      omega
    have taken : Checked.read ring.cells.slots ring.cells.read =
        .ok ring.slots[ring.head] :=
      Checked.read_eq within
    have behind : ring.cells.next ring.cells.read =
        .ok ((ring.head + 1) % ring.slots.size) :=
      Cells.next_eq _ within small
    have counted : Checked.sub ring.count 1 = .ok (ring.count - 1) :=
      Checked.sub_eq occupied
    have sum : ring.head + 1 + (ring.count - 1) = ring.head + ring.count := by omega
    rw [if_neg (Nat.ne_of_gt occupied), dif_pos occupied, taken, Checked.ok_bind, behind,
      Checked.ok_bind, counted]
    simp [cells, pure, Except.pure, sum, Checked.ok_bind]
  · rw [if_pos (Nat.eq_zero_of_not_pos occupied), dif_neg occupied]
    rfl

end Small

end ClockDiscipline.Ring
