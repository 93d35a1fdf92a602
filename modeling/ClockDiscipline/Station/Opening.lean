import ClockDiscipline.Configuration.Basic
import ClockDiscipline.Host.Interface
import ClockDiscipline.Station.Basic

/-!
Opening a station's devices on a host. The pulse driver may have to be loaded first, and
is unloaded when a device cannot be opened and at the end of the station's work. Commands
that load and unload it may fail without consequence.
-/

namespace ClockDiscipline

variable {m : Type → Type} [Monad m]

/-! ## The driver's commands -/

inductive DriverCommand where
  | install
  | remove
  deriving DecidableEq, Repr

namespace DriverCommand

def name : DriverCommand → String
  | install => "install"
  | remove => "remove"

def activity : DriverCommand → String
  | install => "Installing"
  | remove => "Removing"

/-- Run a command if there is one. A failure goes to the journal and nowhere else. -/
def perform (kind : DriverCommand) (host : Host m) : Option String → Journaled m Unit
  | none => return
  | some command => do
      Journaled.say [.info .station s!"{kind.activity} GPS PPS driver: {command}"]
      match ← host.runLine command with
      | .ok () => return
      | .error failure =>
          Journaled.say [.warn .station
            s!"GPS PPS driver {kind.name} command failed: {failure.message}"]

end DriverCommand

/-! ## Single devices -/

def Pulse.openDevice (host : Host m) (path : String) :
    Journaled m (Except Pulse.Failure Unit) := do
  match ← host.openDevice path with
  | .ok () =>
      Journaled.say [.debug .pulse s!"GPS PPS driver opened: {path}"]
      return .ok ()
  | .error cause => return .error (.cannotOpen path cause)

/-- Open the serial line. Its settings are saved before, and the line is used even if they
cannot be. -/
def SerialSettings.openLink (settings : SerialSettings) (host : Host m) :
    Journaled m (Except LinkFailure Unit) := do
  match ← host.saveTerminal settings.port with
  | .ok () => pure ()
  | .error cause =>
      Journaled.say [.warn .link
        s!"Could not save serial settings of {settings.port}: {cause.message}"]
  match ← host.openTerminal settings.port settings.baudRate with
  | .ok () =>
      Journaled.say [.debug .link
        s!"Serial port {settings.port} opened at {settings.baudRate} baud"]
      return .ok ()
  | .error description => return .error (.cannotOpen settings.port description)

/-! ## All devices -/

namespace Station

inductive OpenFailure where
  | pulse (cause : Pulse.Failure)
  | link (cause : LinkFailure)
  deriving DecidableEq, Repr

def OpenFailure.message : OpenFailure → String
  | pulse cause => s!"GPS PPS driver initialization failed: {cause.message}"
  | link cause => s!"GPS serial port initialization failed: {cause.message}"

def openBoth (host : Host m) (configuration : Configuration) :
    Journaled m (Except OpenFailure Unit) := do
  match ← Pulse.openDevice host configuration.pulse.device with
  | .error cause => return .error (.pulse cause)
  | .ok () => return (← configuration.serial.openLink host).mapError .link

def openDevices (host : Host m) (configuration : Configuration) :
    Journaled m (Except OpenFailure Unit) := do
  DriverCommand.install.perform host configuration.pulse.installCommand
  match ← openBoth host configuration with
  | .error cause =>
      DriverCommand.remove.perform host configuration.pulse.removeCommand
      return .error cause
  | .ok () =>
      Journaled.say [.info .station
        s!"Opened {configuration.pulse.device} and {configuration.serial.port}"]
      return .ok ()

end Station

end ClockDiscipline
