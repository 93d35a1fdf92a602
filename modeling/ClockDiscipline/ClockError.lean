import ClockDiscipline.Journal
import ClockDiscipline.Pulse.Drift

/-!
The error of the system clock: by how much it is ahead of UTC at a pulse.
-/

namespace ClockDiscipline

/-- A measurement of the error. It is asked for, waits for the sentence that names the
second of a pulse, and is taken once. -/
structure ErrorMeasurement where
  pending : Bool
  result : Option Float

namespace ErrorMeasurement

def new : ErrorMeasurement := ⟨false, none⟩

def start (_ : ErrorMeasurement) : ErrorMeasurement := ⟨true, none⟩

def errorAt (atPulse : Timestamp) (utc : Int) : Float :=
  elapsedSeconds (.ofSeconds utc) atPulse

def completionEntry (atPulse : Timestamp) (utc : Int) : Entry :=
  .debug .measurement
    s!"System time error measured: {Decimal.fixed 6 (errorAt atPulse utc)}s"

def complete (_ : ErrorMeasurement) (atPulse : Timestamp) (utc : Int) :
    ErrorMeasurement :=
  ⟨false, some (errorAt atPulse utc)⟩

def take (measurement : ErrorMeasurement) : Option Float × ErrorMeasurement :=
  (measurement.result, { measurement with result := none })

end ErrorMeasurement

end ClockDiscipline
