import ClockDiscipline.Host.Machine
import ClockDiscipline.Station.Opening

/-!
The devices of a station whose host is the machine in memory: the line is a terminal, the
clock is the machine's, and no pulse driver answers.
-/

namespace ClockDiscipline.Machine

def readLink (machine : Machine) : Except LinkFailure Received × Machine :=
  let (received, line) := machine.line.read readLimit
  (received, { machine with line })

def writeLink (bytes : List UInt8) (machine : Machine) :
    Reaction Machine (.write bytes) :=
  ⟨(machine.line.write bytes).map fun _ => (), machine, []⟩

def closeLink (port : String) (machine : Machine) : Reaction Machine .closeLink :=
  ⟨.ok (), { machine with line := machine.line.close }, machine.line.closeEntries port⟩

def adjustClock (adjustment : Adjustment) (machine : Machine) :
    Reaction Machine (.adjust adjustment) :=
  let (calls, answer, entries) := machine.kernel.adjust adjustment
  ⟨answer, { machine with clockCalls := machine.clockCalls ++ calls }, entries⟩

def persistClock (command : String) (machine : Machine) : Reaction Machine .persist :=
  let ((answer, entries), machine) := listen (setHardwareClock host command) machine
  ⟨answer, machine, entries⟩

def devices (configuration : Configuration) : Devices Machine where
  read := readLink
  perform
    | .pulse request => fun machine =>
        ⟨.error (.requestFailed request (.errno .inappropriateControl)), machine, []⟩
    | .write bytes => writeLink bytes
    | .adjust adjustment => adjustClock adjustment
    | .persist => persistClock configuration.sync.hardwareClockCommand
    | .closeLink => closeLink configuration.serial.port

/-! ## A station's work -/

/-- Open the devices and start a station; what the journal says meanwhile. -/
def startStation (configuration : Configuration) (machine : Machine) :
    Except Station.OpenFailure Station × List Entry × Machine :=
  let ((opened, entries), machine) :=
    listen (Station.openDevices host configuration) machine
  match opened with
  | .error cause => (.error cause, entries, machine)
  | .ok () =>
      let (station, exchange) :=
        (Station.start (devices configuration) configuration.sync.timings).start machine
      (.ok station, entries ++ exchange.journal.toList, exchange.world)

def endStation (configuration : Configuration) (station : Station) (machine : Machine) :
    List Entry × Machine :=
  let ((), exchange) := (station.shutdown (devices configuration)).start machine
  let (((), entries), machine) :=
    listen
      (DriverCommand.remove.perform host configuration.pulse.removeCommand) exchange.world
  (exchange.journal.toList ++ entries, machine)

end ClockDiscipline.Machine
