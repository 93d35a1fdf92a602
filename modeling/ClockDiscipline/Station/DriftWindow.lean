import ClockDiscipline.Pulse.Drift
import ClockDiscipline.Station.Devices

/-!
Drift windows at the pulse driver. The station opens a window, watches the position fix
while it is open, and closes it to learn the drift rate. A fix lost at any time spoils the
window.
-/

namespace ClockDiscipline

structure DriftWindow where
  isOpen : Bool
  lostFix : Bool
  deriving DecidableEq, Repr

namespace DriftWindow

variable {World : Type}

def new : DriftWindow := ⟨false, false⟩

def start (devices : Devices World) (_ : DriftWindow) : Dialogue World DriftWindow := do
  Dialogue.say [.debug .measurement "Starting system clock drift rate measurement"]
  let _ ← Dialogue.askPulse devices .startDrift
  return ⟨true, false⟩

def abort (devices : Devices World) (window : DriftWindow) :
    Dialogue World DriftWindow := do
  let _ ← Dialogue.askPulse devices .stopDrift
  return { window with isOpen := false }

def observe (window : DriftWindow) (hasFix : Bool) : DriftWindow :=
  if window.isOpen && !hasFix then { window with lostFix := true } else window

/-- The rate of a window. Its own faults are named before the loss of the fix. -/
def judge (window : DriftWindow) (measured : Pulse.Window) : Except Rejection Float :=
  match measured.driftRate with
  | .error rejection => .error rejection
  | .ok rate => if window.lostFix then .error .lostFix else .ok rate

def stop (devices : Devices World) (window : DriftWindow) :
    Dialogue World (Except Rejection Float × DriftWindow) := do
  Dialogue.say [.debug .measurement "Stopping system clock drift measurement"]
  let _ ← Dialogue.askPulse devices .stopDrift
  let stopped := { window with isOpen := false }
  match ← Dialogue.askPulse devices .getDrift with
  | none => return (.error .driverFailure, stopped)
  | some measured =>
      Dialogue.say [.debug .measurement s!"Drift window: {measured.text}"]
      return (window.judge measured, stopped)

end DriftWindow

end ClockDiscipline
