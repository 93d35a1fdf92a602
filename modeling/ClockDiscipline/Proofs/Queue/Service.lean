import ClockDiscipline.Proofs.Checked.Queue

/-!
What a queue answers. Asked for any operations in turn, a new ring answers like a bounded
line: a list that takes in all items at its end or is emptied, and hands out items from
its front. The storage of the ring answers the same, and none of its checks fails.
-/

namespace ClockDiscipline

/-! ## Operations in turn -/

def serveAll {State Command Answer : Type} (serve : State → Command → Answer × State) :
    State → List Command → List Answer × State
  | state, [] => ([], state)
  | state, command :: rest =>
      let (answer, next) := serve state command
      let (answers, final) := serveAll serve next rest
      (answer :: answers, final)

namespace Ring

variable {α : Type}

inductive Operation (α : Type) where
  | enqueue (items : List α)
  | push (item : α)
  | dequeue (limit : Nat)
  | pop
  | flush

inductive Answer (α : Type) where
  | inserted (outcome : Except Full Unit)
  | removed (items : List α)
  | popped (item : Option α)
  | flushed

def serve (ring : Ring α) : Operation α → Answer α × Ring α
  | .enqueue items => (ring.enqueue items).map .inserted id
  | .push item => (ring.push item).map .inserted id
  | .dequeue limit => (ring.dequeue limit).map .removed id
  | .pop => ring.pop.map .popped id
  | .flush => (.flushed, ring.flush)

/-- Pop `limit` times. -/
def popEach : (limit : Nat) → Ring α → List α × Ring α
  | 0, ring => ([], ring)
  | limit + 1, ring =>
      let (item, ring) := ring.pop
      let (items, ring) := ring.popEach limit
      (item.toList ++ items, ring)

namespace Cells

def empty [Inhabited α] (capacity : Nat) : Cells α :=
  ⟨Array.replicate capacity default, 0, 0, 0⟩

def serve (cells : Cells α) : Operation α → Except Fault (Answer α × Cells α)
  | .enqueue items => return (← cells.enqueue items).map .inserted id
  | .push item => return (← cells.push item).map .inserted id
  | .dequeue limit => return (← cells.dequeue limit).map .removed id
  | .pop => return (← cells.pop).map .popped id
  | .flush => return (.flushed, cells.flush)

def serveAll (cells : Cells α) :
    List (Operation α) → Except Fault (List (Answer α) × Cells α)
  | [] => return ([], cells)
  | operation :: rest => do
      let (answer, next) ← cells.serve operation
      let (answers, final) ← next.serveAll rest
      return (answer :: answers, final)

end Cells

/-! ## Bounded lines -/

namespace Line

/-- All items join the line, or it is given up. -/
def join (capacity : Nat) (line items : List α) : Except Full Unit × List α :=
  if items.length ≤ capacity - line.length then (.ok (), line ++ items)
  else (.error ⟨items.length, capacity - line.length, capacity⟩, [])

def serve (capacity : Nat) (line : List α) : Operation α → Answer α × List α
  | .enqueue items => (join capacity line items).map .inserted id
  | .push item => (join capacity line [item]).map .inserted id
  | .dequeue limit => (.removed (line.take limit), line.drop limit)
  | .pop => (.popped line.head?, line.tail)
  | .flush => (.flushed, [])

end Line

/-! ## What goes in and what comes out -/

def Operation.items : Operation α → List α
  | enqueue items => items
  | push item => [item]
  | _ => []

def Answer.items : Answer α → List α
  | removed items => items
  | popped item => item.toList
  | _ => []

def Answer.isEmptying : Answer α → Bool
  | inserted (.error _) => true
  | flushed => true
  | _ => false

/-- What has gone into a queue and what has come out since it was last flushed or
overflowed. -/
structure Traffic (α : Type) where
  entered : List α
  left : List α

namespace Traffic

def none : Traffic α := ⟨[], []⟩

def record (traffic : Traffic α) (exchange : Operation α × Answer α) : Traffic α :=
  if exchange.2.isEmptying then none
  else ⟨traffic.entered ++ exchange.1.items, traffic.left ++ exchange.2.items⟩

def ofService (operations : List (Operation α)) (answers : List (Answer α)) : Traffic α :=
  (operations.zip answers).foldl record none

end Traffic

/-! ## One operation -/

variable (ring : Ring α)

private theorem dequeue_eq_popEach (limit : Nat) : ∀ ring : Ring α,
    ring.dequeue limit = ring.popEach limit := by
  induction limit with
  | zero => exact dequeue_zero
  | succ limit induction =>
      intro ring
      have first : (ring.dequeue 1).1.head?.toList = (ring.dequeue 1).1 := by
        rw [items_dequeue]
        cases ring.toList <;> rfl
      have parts := ring.dequeue_add 1 limit
      rw [Nat.add_comm] at parts
      rw [parts, induction]
      simp only [popEach, pop_eq_dequeue, first]

private theorem enqueue_eq_join (items : List α) :
    (ring.enqueue items).map id toList = Line.join ring.capacity ring.toList items := by
  rw [Line.join, length_toList, ← available]
  by_cases fits : items.length ≤ ring.available
  · rcases ring.enqueue_of_fits fits with ⟨outcome, contents, -⟩
    rw [if_pos fits, Prod.map, outcome, contents]
    rfl
  · rw [if_neg fits, enqueue, if_neg fits]
    rfl

private theorem serve_eq_line (operation : Operation α) :
    (ring.serve operation).map id toList =
      Line.serve ring.capacity ring.toList operation := by
  cases operation with
  | enqueue items =>
      simp only [serve, Line.serve, ← enqueue_eq_join]
      rfl
  | push item =>
      simp only [serve, Line.serve, ← enqueue_eq_join, push_eq_enqueue]
      rfl
  | dequeue limit =>
      simp only [serve, Line.serve, ← items_dequeue, ← toList_dequeue]
      rfl
  | pop =>
      simp [serve, Line.serve, pop_eq_dequeue, items_dequeue, toList_dequeue,
        List.head?_take]
  | flush => rfl

private theorem capacity_serve (operation : Operation α) :
    (ring.serve operation).2.capacity = ring.capacity := by
  cases operation with
  | enqueue items => exact ring.capacity_enqueue items
  | push item => exact ring.capacity_push item
  | dequeue limit => rfl
  | pop => rw [serve, pop_eq_dequeue]; rfl
  | flush => rfl

private theorem cells_serve (small : ring.capacity < unsignedLimit)
    (operation : Operation α) :
    ring.cells.serve operation =
      .ok ((ring.serve operation).1, (ring.serve operation).2.cells) := by
  cases operation with
  | enqueue items => rw [Cells.serve, ring.enqueue_cells small, Checked.ok_bind]; rfl
  | push item => rw [Cells.serve, ring.push_cells small, Checked.ok_bind]; rfl
  | dequeue limit => rw [Cells.serve, ring.dequeue_cells small, Checked.ok_bind]; rfl
  | pop => rw [Cells.serve, ring.pop_cells small, Checked.ok_bind]; rfl
  | flush => rw [serve, cells_flush]; rfl

namespace Traffic

/-- What has gone in has come out or is in the line. -/
def Balances (traffic : Traffic α) (line : List α) : Prop :=
  traffic.entered = traffic.left ++ line

variable {traffic : Traffic α} {line : List α}

private theorem Balances.join (balances : traffic.Balances line) (capacity : Nat)
    (operation : Operation α) :
    let joined := Line.join capacity line operation.items
    (traffic.record (operation, .inserted joined.1)).Balances joined.2 := by
  unfold Line.join
  by_cases fits : operation.items.length ≤ capacity - line.length
  · rw [if_pos fits]
    show traffic.entered ++ operation.items =
      (traffic.left ++ []) ++ (line ++ operation.items)
    rw [balances, List.append_nil, List.append_assoc]
  · rw [if_neg fits]
    rfl

private theorem Balances.serve (balances : traffic.Balances line) (capacity : Nat)
    (operation : Operation α) :
    let served := Line.serve capacity line operation
    (traffic.record (operation, served.1)).Balances served.2 := by
  cases operation with
  | enqueue items => exact balances.join capacity (.enqueue items)
  | push item => exact balances.join capacity (.push item)
  | dequeue limit =>
      show traffic.entered ++ [] = (traffic.left ++ line.take limit) ++ line.drop limit
      rw [balances, List.append_nil, List.append_assoc, List.take_append_drop]
  | pop =>
      show traffic.entered ++ [] = (traffic.left ++ line.head?.toList) ++ line.tail
      rw [balances, List.append_nil, List.append_assoc]
      cases line <;> rfl
  | flush => rfl

end Traffic

/-! ## All operations -/

private theorem serveAll_eq_line (operations : List (Operation α)) : ∀ ring : Ring α,
    (serveAll serve ring operations).map id toList =
      serveAll (Line.serve ring.capacity) ring.toList operations := by
  induction operations with
  | nil => exact fun _ => rfl
  | cons operation rest induction =>
      intro ring
      have once := ring.serve_eq_line operation
      have follows := induction (ring.serve operation).2
      rw [capacity_serve] at follows
      simp only [serveAll, ← once, Prod.map_snd, ← follows]
      rfl

private theorem capacity_serveAll (operations : List (Operation α)) : ∀ ring : Ring α,
    (serveAll serve ring operations).2.capacity = ring.capacity := by
  induction operations with
  | nil => exact fun _ => rfl
  | cons operation rest induction =>
      intro ring
      exact (induction (ring.serve operation).2).trans (ring.capacity_serve operation)

private theorem cells_serveAll (operations : List (Operation α)) : ∀ ring : Ring α,
    ring.capacity < unsignedLimit → ring.cells.serveAll operations =
      .ok
        ((serveAll serve ring operations).1,
          (serveAll serve ring operations).2.cells) := by
  induction operations with
  | nil => exact fun _ _ => rfl
  | cons operation rest induction =>
      intro ring small
      have follows := induction (ring.serve operation).2 (by rwa [capacity_serve])
      rw [Cells.serveAll, ring.cells_serve small, Checked.ok_bind]
      dsimp only
      rw [follows]
      rfl

private theorem Traffic.Balances.served (capacity : Nat)
    (operations : List (Operation α)) :
    ∀ {line : List α} {traffic : Traffic α}, traffic.Balances line →
      let served := serveAll (Line.serve capacity) line operations
      ((operations.zip served.1).foldl record traffic).Balances served.2 := by
  induction operations with
  | nil => exact id
  | cons operation rest induction =>
      intro line traffic balances
      exact induction (balances.serve capacity operation)

/-- The queue has served `operations` with `answers` like a bounded line, and nothing but
the line is left in it. -/
structure HasServed [Inhabited α] (capacity : Nat) (operations : List (Operation α))
    (answers : List (Answer α)) (ring : Ring α) : Prop where
  answers_eq : answers = (serveAll (Line.serve capacity) [] operations).1
  toList_eq : ring.toList = (serveAll (Line.serve capacity) [] operations).2
  count_eq : ring.count = ring.toList.length
  count_le : ring.count ≤ capacity
  available_eq : ring.available = capacity - ring.count
  balances : (Traffic.ofService operations answers).Balances ring.toList
  push_eq : ∀ item, ring.push item = ring.enqueue [item]
  dequeue_eq : ∀ limit, ring.dequeue limit = ring.popEach limit
  stored : capacity < unsignedLimit →
    (Cells.empty capacity).serveAll operations = .ok (answers, ring.cells)

theorem hasServed [Inhabited α] (capacity : Nat) (operations : List (Operation α)) :
    let served := serveAll serve (empty capacity) operations
    HasServed capacity operations served.1 served.2 := by
  intro served
  have room : (empty capacity : Ring α).capacity = capacity := capacity_empty capacity
  have line := serveAll_eq_line operations (empty capacity : Ring α)
  rw [room] at line
  have answers : served.1 = (serveAll (Line.serve capacity) [] operations).1 :=
    congrArg Prod.fst line
  have contents : served.2.toList = (serveAll (Line.serve capacity) [] operations).2 :=
    congrArg Prod.snd line
  have kept : served.2.capacity = capacity :=
    (capacity_serveAll operations (empty capacity)).trans room
  constructor
  case answers_eq => exact answers
  case toList_eq => exact contents
  case count_eq => exact served.2.length_toList.symm
  case count_le =>
    rw [← kept]
    exact served.2.count_le
  case available_eq => rw [available, kept]
  case balances =>
    rw [answers, contents]
    exact Traffic.Balances.served capacity operations rfl
  case push_eq => exact served.2.push_eq_enqueue
  case dequeue_eq => exact fun limit => dequeue_eq_popEach limit served.2
  case stored =>
    intro small
    have stored := cells_serveAll operations (empty capacity : Ring α) (by rwa [room])
    have fresh : (empty capacity : Ring α).cells = Cells.empty capacity := by
      simp [cells, empty, Cells.empty]
    rwa [fresh] at stored

example :
    (serveAll serve (empty 3 : Ring Nat)
      [.enqueue [1, 2], .dequeue 1, .enqueue [3, 4], .pop,
      .enqueue [5, 6], .pop]).1 =
    [.inserted (.ok ()), .removed [1], .inserted (.ok ()), .popped (some 2),
      .inserted (.error ⟨2, 1, 3⟩), .popped none] := by
  rfl

end Ring

end ClockDiscipline
