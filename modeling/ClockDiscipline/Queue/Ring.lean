/-!
A bounded first-in first-out queue kept in a ring of slots. The oldest item sits at `head`
and the others follow it, wrapping past the last slot; slots outside that range hold
leftovers. An insertion that does not fit empties the queue and keeps nothing of the
inserted items.
-/

namespace ClockDiscipline

universe u

structure Ring (α : Type u) where
  slots : Array α
  head : Nat
  count : Nat
  count_le : count ≤ slots.size
  head_lt : slots.size = 0 ∨ head < slots.size

namespace Ring

variable {α : Type u}

structure Full where
  requested : Nat
  available : Nat
  capacity : Nat
  deriving DecidableEq, Repr

def Full.message (full : Full) : String :=
  s!"Ring buffer overflow: {full.requested} items requested, {full.available} free of " ++
    toString full.capacity

/-! ## Size -/

def capacity (ring : Ring α) : Nat := ring.slots.size

def available (ring : Ring α) : Nat := ring.capacity - ring.count

def isEmpty (ring : Ring α) : Bool := ring.count == 0

def empty [Inhabited α] (capacity : Nat) : Ring α where
  slots := Array.replicate capacity default
  head := 0
  count := 0
  count_le := Nat.zero_le _
  head_lt := by omega

/-- Forget all items; the slots keep what they hold. -/
def flush (ring : Ring α) : Ring α where
  slots := ring.slots
  head := 0
  count := 0
  count_le := Nat.zero_le _
  head_lt := by omega

/-! ## Insertion -/

/-- Write one item behind the newest. A ring without a free slot stays as it is. -/
def append (ring : Ring α) (item : α) : Ring α :=
  if free : ring.count < ring.slots.size then
    { slots := ring.slots.set ((ring.head + ring.count) % ring.slots.size) item
        (Nat.mod_lt _ (by omega))
      head := ring.head
      count := ring.count + 1
      count_le := by simpa using Nat.succ_le_of_lt free
      head_lt := by simpa using ring.head_lt }
  else
    ring

/-- Insert all items, or none. -/
def enqueue (ring : Ring α) (items : List α) : Except Full Unit × Ring α :=
  if items.length ≤ ring.available then
    (.ok (), items.foldl append ring)
  else
    (.error ⟨items.length, ring.available, ring.capacity⟩, ring.flush)

def push (ring : Ring α) (item : α) : Except Full Unit × Ring α :=
  if ring.available = 0 then
    (.error ⟨1, 0, ring.capacity⟩, ring.flush)
  else
    (.ok (), ring.append item)

/-! ## Contents -/

def oldest (ring : Ring α) (amount : Nat) : List α :=
  (List.range amount).filterMap fun offset =>
    ring.slots[(ring.head + offset) % ring.slots.size]?

def toList (ring : Ring α) : List α := ring.oldest ring.count

/-! ## Removal -/

def pop (ring : Ring α) : Option α × Ring α :=
  if occupied : 0 < ring.count then
    have filled : 0 < ring.slots.size := Nat.lt_of_lt_of_le occupied ring.count_le
    have bounded : ring.head < ring.slots.size := by have := ring.head_lt; omega
    (some ring.slots[ring.head],
      { slots := ring.slots
        head := (ring.head + 1) % ring.slots.size
        count := ring.count - 1
        count_le := Nat.le_trans (Nat.sub_le _ _) ring.count_le
        head_lt := Or.inr (Nat.mod_lt _ filled) })
  else
    (none, ring)

def dequeue (ring : Ring α) (limit : Nat) : List α × Ring α :=
  let amount := min limit ring.count
  (ring.oldest amount,
    { slots := ring.slots
      head := (ring.head + amount) % ring.slots.size
      count := ring.count - amount
      count_le := Nat.le_trans (Nat.sub_le _ _) ring.count_le
      head_lt := by
        by_cases bare : ring.slots.size = 0
        · exact Or.inl bare
        · exact Or.inr (Nat.mod_lt _ (by omega)) })

end Ring

end ClockDiscipline
