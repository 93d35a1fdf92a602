import ClockDiscipline.Decimal.Fixed
import ClockDiscipline.Journal

/-!
The compensation of the clock. Its rate has two parts: one takes away the systematic drift
of the clock and accumulates over synchronisations, the other removes the present error
until the next one. Rates are in seconds per second. The feedback law is stated for any
numbers with the three operations it needs; the station runs it on binary64.
-/

namespace ClockDiscipline

structure Compensation (α : Type) where
  driftRate : α
  error : α
  driftCompensation : α
  errorCompensation : α

namespace Compensation

variable {α : Type}

def zero [OfNat α 0] : Compensation α := ⟨0, 0, 0, 0⟩

/-- The part of the measured drift that the last error compensation does not explain. -/
def residual [Sub α] (compensation : Compensation α) : α :=
  compensation.driftRate - compensation.errorCompensation

/-- Take the residual drift out, and spread the error over the period that follows. -/
def update [Sub α] [Neg α] [Div α] (period : α) (compensation : Compensation α) :
    Compensation α :=
  { compensation with
    driftCompensation := compensation.driftCompensation - compensation.residual
    errorCompensation := -(compensation.error / period) }

def total [Add α] (compensation : Compensation α) : α :=
  compensation.driftCompensation + compensation.errorCompensation

def updateEntries (period : Nat) (before : Compensation Float) : List Entry :=
  let after := before.update (Float.ofNat period)
  [ "Updating clock compensation:",
    s!"  sys time error =          {Decimal.fixed 6 before.error} s",
    s!"  sys time drift rate =     {Decimal.fixed 9 before.driftRate} s/s",
    s!"  old drift comp rate =     {Decimal.fixed 9 before.driftCompensation} s/s",
    s!"  old error comp rate =     {Decimal.fixed 9 before.errorCompensation} s/s",
    s!"  residual sys drift rate = {Decimal.fixed 9 before.residual} s/s",
    s!"  new drift comp rate =     {Decimal.fixed 9 after.driftCompensation} s/s",
    s!"  new error comp rate =     {Decimal.fixed 9 after.errorCompensation} s/s",
    s!"  time sync period =        {period} s" ].map (.info .compensation)

end Compensation

end ClockDiscipline
