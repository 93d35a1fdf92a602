/-!
The phases of synchronisation and how long the timed ones last.
-/

namespace ClockDiscipline.Sync

/-- The phases in the order in which a first synchronisation passes through them. -/
inductive Phase where
  | waitForPower
  | init1
  | init2
  | init3
  | waitForFirstFix
  | settle1
  | setSystemTime
  | settle2
  | measureDrift
  | measureError
  | waitForNextSync
  deriving DecidableEq, Repr

def Phase.name : Phase → String
  | waitForPower => "WaitForPower"
  | init1 => "Init1"
  | init2 => "Init2"
  | init3 => "Init3"
  | waitForFirstFix => "WaitForFirstFix"
  | settle1 => "Settle1"
  | setSystemTime => "SetSystemTime"
  | settle2 => "Settle2"
  | measureDrift => "MeasureDrift"
  | measureError => "MeasureError"
  | waitForNextSync => "WaitForNextSync"

/-- Delays in seconds. -/
structure Timings where
  initStepDelay : Nat
  firstFixSettle : Nat
  timeSetSettle : Nat
  driftWindow : Nat
  syncPeriod : Nat
  deriving DecidableEq, Repr

def Timings.standard : Timings where
  initStepDelay := 2
  firstFixSettle := 60
  timeSetSettle := 5
  driftWindow := 30
  syncPeriod := 3600

end ClockDiscipline.Sync
