import ClockDiscipline.Adjustment
import ClockDiscipline.Agreement
import ClockDiscipline.Compensation
import ClockDiscipline.Pulse.Drift
import ClockDiscipline.Sync.Phase

/-!
What synchronisation remembers, what it learns in a step and what it asks for.
-/

namespace ClockDiscipline.Sync

inductive Effect where
  | flushQueues
  | sendInit (index : Nat)
  | clearFix
  /-- End a drift window that may be open, without reading it. -/
  | abortDrift
  | startDrift
  | finishDrift
  | requestTimeSet
  | startError
  | applyCompensation (adjustment : Adjustment)
  | persistHardwareClock
  | startPseudoPulse
  | publishStatus (lastSynchronised : Int) (error : Float)

/-- What a step is told. Instants are in seconds since the station started, the time of
day in seconds since the start of 1970. -/
structure Inputs where
  now : Nat
  wallTime : Int
  receiverPower : Bool
  hasFix : Bool
  timeSetDone : Bool
  /-- The outcome of the drift window that ended in the step before. -/
  driftResult : Option (Except Rejection Float)
  errorResult : Option Float

structure State where
  phase : Phase
  /-- The timed phases last until an instant later than this one. -/
  deadline : Nat
  systemTimeSet : Bool
  pseudoPulseRunning : Bool
  awaitingDriftResult : Bool
  driftAgreement : Agreement
  errorAgreement : Agreement
  compensation : Compensation Float
  timings : Timings

namespace State

def initial (timings : Timings) : State where
  phase := .waitForPower
  deadline := 0
  systemTimeSet := false
  pseudoPulseRunning := false
  awaitingDriftResult := false
  driftAgreement := .drift
  errorAgreement := .error
  compensation := .zero
  timings := timings

def isDue (state : State) (now : Nat) : Bool := state.deadline < now

end State

end ClockDiscipline.Sync
