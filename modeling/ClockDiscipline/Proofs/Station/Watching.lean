import ClockDiscipline.Proofs.Station.Replay

/-!
Watches over the receiver. A sign of the receiver holds for some seconds. A poll with a
sign raises a flag, and the first poll that comes too late lowers it. Since the clock
never runs backward, the flag tells after every poll whether the latest sign still holds.
-/

namespace ClockDiscipline.Station

/-! ## Signs that hold for a time -/

/-- At `now` the flag tells whether the latest sign still holds, and the deadline for how
long. -/
structure Watches (timeout now : Nat) (latest : Option Nat) (flag : Bool)
    (deadline : Nat) : Prop where
  flag_iff : flag = true ↔ ∃ last ∈ latest, now ≤ last + timeout
  deadline_eq : ∀ last ∈ latest, deadline = last + timeout

namespace Watches

theorem never (timeout now deadline : Nat) : Watches timeout now none false deadline := by
  constructor <;> simp

theorem sign (timeout now : Nat) :
    Watches timeout now (some now) true (now + timeout) := by
  constructor <;> simp

theorem wait {timeout now later deadline : Nat} {latest : Option Nat} {flag still : Bool}
    (watches : Watches timeout now latest flag deadline) (forward : now ≤ later)
    (kept : still = true ↔ flag = true ∧ later ≤ deadline) :
    Watches timeout later latest still deadline := by
  refine ⟨?_, watches.deadline_eq⟩
  rw [kept, watches.flag_iff]
  constructor
  · rintro ⟨⟨last, member, -⟩, early⟩
    rw [watches.deadline_eq last member] at early
    exact ⟨last, member, early⟩
  · rintro ⟨last, member, early⟩
    rw [watches.deadline_eq last member]
    -- A sign that holds now has held ever since.
    exact ⟨⟨last, member, by omega⟩, early⟩

end Watches

/-! ## The order of the polls -/

variable {World : Type} {devices : Devices World}

/-- The clock never runs backward. -/
def Forward (past : List (Tick devices)) : Prop :=
  past.Pairwise fun later earlier => earlier.now ≤ later.now

def reached (past : List (Tick devices)) : Nat := past.head?.elim 0 Tick.now

theorem Forward.reached_le {tick : Tick devices} {earlier : List (Tick devices)}
    (forward : Forward (tick :: earlier)) : reached earlier ≤ tick.now := by
  cases earlier with
  | nil => exact Nat.zero_le _
  | cons previous older =>
      exact (List.pairwise_cons.mp forward).1 previous List.mem_cons_self

theorem forward_of_polls {past : List (Tick devices)} {polls : List (Nat × Int × World)}
    (polled : past.map Tick.poll = polls)
    (ordered : (polls.map Prod.fst).Pairwise fun later earlier => earlier ≤ later) :
    Forward past := by
  rw [← polled, List.map_map, List.pairwise_map] at ordered
  exact ordered

end ClockDiscipline.Station
