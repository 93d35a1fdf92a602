import ClockDiscipline.Station.Basic

/-!
Devices that follow a script: they answer what was prepared for them and refuse the
operations they were told to refuse.
-/

namespace ClockDiscipline

/-! ## Operations -/

inductive Operation where
  | startDrift
  | stopDrift
  | getDrift
  | setTime
  | getTime
  | startPseudoPulse
  | publish
  | read
  | write
  | adjust
  | persist
  deriving DecidableEq, Repr

def Pulse.Request.operation : Pulse.Request → Operation
  | startDrift => .startDrift
  | stopDrift => .stopDrift
  | getDrift => .getDrift
  | setTime _ => .setTime
  | getTime => .getTime
  | startPseudoPulse => .startPseudoPulse
  | publish _ => .publish

/-! ## Prepared answers -/

/-- Answers to one request: the prepared ones in turn, and the last one given from then
on. -/
structure Prepared (α : Type) where
  present : α
  queue : List α

namespace Prepared

variable {α : Type}

def next (prepared : Prepared α) : α × Prepared α :=
  match prepared.queue with
  | [] => (prepared.present, prepared)
  | answer :: rest => (answer, ⟨answer, rest⟩)

def settle (prepared : Prepared α) (answer : α) : Prepared α :=
  { prepared with present := answer }

def prepare (prepared : Prepared α) (answers : List α) : Prepared α :=
  { prepared with queue := prepared.queue ++ answers }

end Prepared

/-! ## Scripts -/

structure Script where
  incoming : List UInt8
  refused : List Operation
  windows : Prepared Pulse.Window
  pulses : Prepared Timestamp
  closed : Bool

namespace Script

def initial : Script := ⟨[], [], ⟨default, []⟩, ⟨default, []⟩, false⟩

def refuses (script : Script) (operation : Operation) : Bool := operation ∈ script.refused

def arrive (script : Script) (bytes : List UInt8) : Script :=
  { script with incoming := script.incoming ++ bytes }

def read (script : Script) : Except LinkFailure Received × Script :=
  if script.refuses .read then
    (.error (.transfer (.errno .inputOutput)), script)
  else
    (.ok ⟨script.incoming.take readLimit, List.length_take_le _ _⟩,
      { script with incoming := script.incoming.drop readLimit })

def reply (script : Script) : (request : Pulse.Request) → request.Reply × Script
  | .getDrift =>
      let (window, windows) := script.windows.next
      (window, { script with windows })
  | .getTime =>
      let (pulse, pulses) := script.pulses.next
      (pulse, { script with pulses })
  | .startDrift => ((), script)
  | .stopDrift => ((), script)
  | .setTime _ => ((), script)
  | .startPseudoPulse => ((), script)
  | .publish _ => ((), script)

def answer (script : Script) : (request : Request) → request.Answer × Script
  | .pulse request =>
      if script.refuses request.operation then
        (.error (.requestFailed request (.errno .inputOutput)), script)
      else
        let (answer, script) := script.reply request
        (.ok answer, script)
  | .write _ => (if script.refuses .write then .error .closed else .ok (), script)
  | .adjust _ => (if script.refuses .adjust then .error .unsupported else .ok (), script)
  | .persist => (if script.refuses .persist then .error .noCommand else .ok (), script)
  | .closeLink => (.ok (), { script with closed := true })

def devices : Devices Script where
  read := read
  perform request script :=
    let (answer, script) := script.answer request
    ⟨answer, script, []⟩

end Script

end ClockDiscipline
