import ClockDiscipline.Compensation
import Mathlib.Logic.Function.Iterate
import Mathlib.Tactic.FieldSimp
import Mathlib.Tactic.Ring

/-!
The feedback law of the compensation. Over exact numbers one update cancels a steady drift
for good and takes the error away by the next synchronisation, whatever rates were in
effect before.
-/

namespace ClockDiscipline

namespace Compensation

/-! ## Updates -/

section Feed

variable {α : Type}

def memory (compensation : Compensation α) : α × α :=
  (compensation.driftCompensation, compensation.errorCompensation)

variable [Sub α] [Neg α] [Div α]

def feed (period : α) (compensation : Compensation α) (means : α × α) : Compensation α :=
  { compensation with driftRate := means.1, error := means.2 }.update period

theorem memory_feed_congr {left right : Compensation α} (period : α) (means : α × α)
    (same : left.memory = right.memory) :
    (left.feed period means).memory = (right.feed period means).memory := by
  cases left
  cases right
  cases same
  rfl

end Feed

/-! ## A steady clock -/

/-- A clock at a synchronisation: the compensation that has run up to it, and the error
that the clock shows. -/
structure Regulation where
  compensation : Compensation ℚ
  error : ℚ

namespace Regulation

variable (drift period : ℚ) (regulation : Regulation)

/-- The rate at which the clock strays while its compensation runs. -/
def rate : ℚ := drift + regulation.compensation.total

def updated : Compensation ℚ :=
  regulation.compensation.feed period (regulation.rate drift, regulation.error)

def next : Regulation where
  compensation := regulation.updated drift period
  error := regulation.error + period * (drift + (regulation.updated drift period).total)

/-- The rate that was measured holds the error compensation too. Without it, what is left
is the drift and the part of the compensation that was meant to cancel it. -/
theorem driftCompensation_updated :
    (regulation.updated drift period).driftCompensation = -drift := by
  unfold updated feed update residual rate total
  ring

private theorem errorCompensation_updated :
    (regulation.updated drift period).errorCompensation = -(regulation.error / period) :=
  rfl

private theorem total_updated :
    (regulation.updated drift period).total = -drift - regulation.error / period := by
  rw [total, driftCompensation_updated, errorCompensation_updated, sub_eq_add_neg]

variable {period}

private theorem error_next (nonzero : period ≠ 0) :
    (regulation.next drift period).error = 0 := by
  rw [next, total_updated]
  field_simp
  ring

def later (period : ℚ) (cycles : Nat) : Regulation :=
  (next drift period)^[cycles] regulation

private theorem later_succ (cycles : Nat) :
    regulation.later drift period (cycles + 1) =
      (regulation.later drift period cycles).next drift period :=
  Function.iterate_succ_apply' _ _ _

structure Settles (period : ℚ) : Prop where
  driftCompensation : (regulation.updated drift period).driftCompensation = -drift
  errorCompensation :
    (regulation.updated drift period).errorCompensation = -regulation.error / period
  nextError : regulation.error + period *
    (drift + (regulation.updated drift period).total) = 0
  forever : ∀ cycles,
    (regulation.later drift period (cycles + 1)).compensation.driftCompensation = -drift ∧
      (regulation.later drift period (cycles + 1)).error = 0

/-- From one update on a steady drift stays cancelled, and every later synchronisation
finds no error. -/
theorem settles (positive : 0 < period) : regulation.Settles drift period where
  driftCompensation := regulation.driftCompensation_updated drift period
  errorCompensation := by rw [errorCompensation_updated, neg_div]
  nextError := regulation.error_next drift positive.ne'
  forever cycles := by
    rw [later_succ]
    exact ⟨driftCompensation_updated drift period _, error_next drift _ positive.ne'⟩

/-- An hour of a clock that gains ten microseconds a second and stands three milliseconds
behind, while rates from elsewhere are in effect. -/
theorem settles_of_hour : (0 : ℚ) < 3600 ∧
    Settles (1 / 100000) ⟨⟨0, 0, 1 / 50000, -1 / 1000000⟩, -3 / 1000⟩ 3600 :=
  ⟨by norm_num, settles (1 / 100000) _ (by norm_num)⟩

end Regulation

end Compensation

end ClockDiscipline
