import ClockDiscipline.Host.Errno
import ClockDiscipline.Host.Signal
import ClockDiscipline.Station.Devices
import ClockDiscipline.Text.Blank

/-!
What the program needs of the host it runs on, in a monad of the host's choice: files,
commands, and the devices as they are opened.
-/

namespace ClockDiscipline

/-! ## The host -/

structure Host (m : Type → Type) where
  pathExists : String → m Bool
  readText : String → m (Except HostError String)
  /-- Replace what a file holds, and create it if need be. -/
  writeText : String → String → m (Except HostError Unit)
  createDirectories : String → m (Except HostError Unit)
  appendText : String → String → m (Except HostError Unit)
  run : String → List String → m (Except HostError ExitStatus)
  openDevice : String → m (Except HostError Unit)
  saveTerminal : String → m (Except HostError Unit)
  /-- Open a terminal for raw bytes at a rate; a failure is described in words. -/
  openTerminal : String → Nat → m (Except String Unit)
  printLine : String → m Unit
  stamp : Entry → m String

namespace Host

def textOfBytes (bytes : List UInt8) : Except HostError String :=
  match String.fromUTF8? bytes.toByteArray with
  | some text => .ok text
  | none => .error (.malformed "stream did not contain valid UTF-8")

variable {m : Type → Type} [Monad m]

/-- Run a line of words: the first names the program, the others are its arguments. -/
def runLine (host : Host m) (line : String) : m (Except ClockFailure Unit) := do
  match Text.words line with
  | [] => return .error .noCommand
  | program :: arguments =>
      match ← host.run program arguments with
      | .error cause => return .error (.commandNotStarted line cause)
      | .ok (.exited 0) => return .ok ()
      | .ok status => return .error (.commandFailed line status.text)

end Host

end ClockDiscipline
