import ClockDiscipline.Adjustment
import ClockDiscipline.Journal
import ClockDiscipline.Pulse.Request

/-!
The devices around the station: the serial link to the receiver, the pulse driver and the
system clock. They are an arbitrary function of an abstract world, and any request may
fail. An exchange keeps what was asked of them, what they answered, and the journal.
-/

namespace ClockDiscipline

/-! ## Failures -/

inductive LinkFailure where
  | cannotOpen (port description : String)
  | control (description : String)
  | transfer (cause : HostError)
  | closed
  deriving DecidableEq, Repr

def LinkFailure.message : LinkFailure → String
  | cannotOpen port description => s!"Could not open serial port {port}: {description}"
  | control description => s!"Serial port error: {description}"
  | transfer cause => s!"Serial I/O error: {cause.message}"
  | closed => "Serial port is closed"

inductive ClockFailure where
  | adjustment (cause : HostError)
  | commandNotStarted (command : String) (cause : HostError)
  | commandFailed (command status : String)
  | noCommand
  | unsupported
  deriving DecidableEq, Repr

def ClockFailure.message : ClockFailure → String
  | adjustment cause => s!"adjtimex() failed: {cause.message}"
  | commandNotStarted command cause =>
      s!"Hardware clock command '{command}' could not be run: {cause.message}"
  | commandFailed command status =>
      s!"Hardware clock command '{command}' exited with {status}"
  | noCommand => "No hardware clock command configured"
  | unsupported => "Clock rate adjustment is not supported on this platform"

/-! ## Requests -/

inductive Request where
  | pulse (request : Pulse.Request)
  | write (bytes : List UInt8)
  | adjust (adjustment : Adjustment)
  | persist
  | closeLink
  deriving DecidableEq, Repr

namespace Request

@[reducible] def Failure : Request → Type
  | pulse _ => Pulse.Failure
  | write _ => LinkFailure
  | adjust _ => ClockFailure
  | persist => ClockFailure
  | closeLink => Empty

@[reducible] def Reply : Request → Type
  | pulse request => request.Reply
  | _ => Unit

abbrev Answer (request : Request) : Type := Except request.Failure request.Reply

instance : (request : Request) → DecidableEq request.Failure
  | pulse _ => inferInstanceAs (DecidableEq Pulse.Failure)
  | write _ => inferInstanceAs (DecidableEq LinkFailure)
  | adjust _ => inferInstanceAs (DecidableEq ClockFailure)
  | persist => inferInstanceAs (DecidableEq ClockFailure)
  | closeLink => inferInstanceAs (DecidableEq Empty)

instance : (request : Request) → DecidableEq request.Reply
  | pulse request => inferInstanceAs (DecidableEq request.Reply)
  | write _ => inferInstanceAs (DecidableEq Unit)
  | adjust _ => inferInstanceAs (DecidableEq Unit)
  | persist => inferInstanceAs (DecidableEq Unit)
  | closeLink => inferInstanceAs (DecidableEq Unit)

end Request

def readLimit : Nat := 1024

abbrev Received : Type := { bytes : List UInt8 // bytes.length ≤ readLimit }

/-- How a device meets a request: its answer, the world after it, and what the device
itself has to say. -/
structure Reaction (World : Type) (request : Request) where
  answer : request.Answer
  world : World
  entries : List Entry

structure Devices (World : Type) where
  read : World → Except LinkFailure Received × World
  perform : (request : Request) → World → Reaction World request

/-! ## Exchanges -/

structure Call where
  request : Request
  answer : request.Answer

def Call.accepted (call : Call) : Bool := call.answer.isOk

structure Exchange (World : Type) where
  world : World
  calls : List Call
  journal : Array Entry

/-- A dialogue with the devices, in the course of which the journal is written. -/
abbrev Dialogue (World : Type) : Type → Type := StateM (Exchange World)

namespace Dialogue

variable {World : Type}

def start {α : Type} (dialogue : Dialogue World α) (world : World) : α × Exchange World :=
  dialogue.run ⟨world, [], #[]⟩

def say (entries : List Entry) : Dialogue World Unit :=
  modify fun exchange =>
    { exchange with journal := entries.foldl Array.push exchange.journal }

def receive (devices : Devices World) : Dialogue World (Except LinkFailure Received) :=
  fun exchange =>
    let (received, world) := devices.read exchange.world
    (received, { exchange with world })

def ask (devices : Devices World) (request : Request) : Dialogue World request.Answer :=
  fun exchange =>
    let reaction := devices.perform request exchange.world
    (reaction.answer,
      { world := reaction.world
        calls := exchange.calls ++ [⟨request, reaction.answer⟩]
        journal := reaction.entries.foldl Array.push exchange.journal })

/-- Ask the pulse driver once. A failure goes to the journal and is not tried again. -/
def askPulse (devices : Devices World) (request : Pulse.Request) :
    Dialogue World (Option request.Reply) := do
  match ← ask devices (.pulse request) with
  | .ok reply => return some reply
  | .error failure =>
      say [.warn .pulse failure.message]
      return none

end Dialogue

end ClockDiscipline
