import ClockDiscipline.Pulse.Request

/-!
From stamped pulses to numbers: the drift rate of the system clock over a window. A window
that is too short, or that shows an implausible drift, gives no rate.
-/

namespace ClockDiscipline

inductive Rejection where
  | tooShort (systemSeconds : Float) (gpsSeconds : Nat)
  | excessiveDrift (driftSeconds : Float)
  | lostFix
  | driverFailure

def Rejection.message : Rejection → String
  | tooShort systemSeconds gpsSeconds =>
      s!"measurement window too short (sys {Decimal.fixed 6 systemSeconds}s, gps {gpsSeconds}s)"
  | excessiveDrift driftSeconds =>
      s!"drift of {Decimal.fixed 6 driftSeconds}s during window is not plausible"
  | lostFix => "GPS fix lost during measurement window"
  | driverFailure => "PPS driver did not return a measurement"

/-! ## Elapsed time -/

def Timestamp.inMicroseconds (time : Timestamp) : Float :=
  Float.ofInt time.seconds * 1000000.0 + Float.ofInt time.microseconds

def elapsedSeconds (start finish : Timestamp) : Float :=
  (finish.inMicroseconds - start.inMicroseconds) / 1000000.0

/-! ## Drift rate -/

/-- The largest plausible drift within a window, in seconds. -/
def maxWindowDrift : Float := 0.5

/-- Seconds that the system clock gained in each second of the window. -/
def Pulse.Window.driftRate (window : Pulse.Window) : Except Rejection Float :=
  let systemSeconds := elapsedSeconds window.first window.last
  let utcSeconds := Float.ofNat window.gpsSeconds
  let driftSeconds := systemSeconds - utcSeconds
  if systemSeconds < 1.0 ∨ utcSeconds < 1.0 then
    .error (.tooShort systemSeconds window.gpsSeconds)
  else if maxWindowDrift < driftSeconds.abs then
    .error (.excessiveDrift driftSeconds)
  else
    .ok (driftSeconds / utcSeconds)

def Pulse.Window.text (window : Pulse.Window) : String :=
  let time (time : Timestamp) : String :=
    s!"{time.seconds}.{Decimal.paddedSigned 6 time.microseconds}"
  s!"begin={time window.first} end={time window.last} gps_seconds={window.gpsSeconds}"

end ClockDiscipline
