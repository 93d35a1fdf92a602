import ClockDiscipline.Nmea.Command
import ClockDiscipline.Nmea.Framer
import ClockDiscipline.Station.DriftWindow
import ClockDiscipline.Station.Reception
import ClockDiscipline.Sync.Step

/-!
The station. In each poll it reads the link, cuts what came in into sentences, handles
them, looks after the fix and the power, takes one step of synchronisation and carries out
the effects of that step on the devices.
-/

namespace ClockDiscipline

def byteCapacity : Nat := 100000

def sentenceCapacity : Nat := 200

structure Station where
  bytes : Ring UInt8
  sentences : Ring Nmea.Sentence
  framer : Nmea.Framer
  reception : Reception
  drift : DriftWindow
  power : ReceiverPower
  sync : Sync.State
  /-- The outcome of a drift window that the next step of synchronisation will learn. -/
  driftResult : Option (Except Rejection Float)

namespace Station

variable {World : Type}

def initial (timings : Sync.Timings) : Station where
  bytes := .empty byteCapacity
  sentences := .empty sentenceCapacity
  framer := .new
  reception := .initial
  drift := .new
  power := .new
  sync := .initial timings
  driftResult := none

def start (devices : Devices World) (timings : Sync.Timings) :
    Dialogue World Station := do
  match ← Dialogue.ask devices (.adjust (.ofRate 0.0)) with
  | .ok _ => pure ()
  | .error failure =>
      Dialogue.say
        [.warn .station s!"Could not reset system clock rate: {failure.message}"]
  return initial timings

/-! ## The phases of a poll -/

/-- A poll that meets an overflow goes no further. What was asked and said so far
remains. -/
abbrev Poll (World : Type) : Type → Type := ExceptT Overflow (Dialogue World)

def Poll.converse {α : Type} (dialogue : Dialogue World α) : Poll World α :=
  ExceptT.lift dialogue

def Poll.say (entries : List Entry) : Poll World Unit :=
  Poll.converse (Dialogue.say entries)

/-- Read the link. Bytes show that the receiver has power, and wait in their queue; a
failed read counts as silence. -/
def readLink (devices : Devices World) (now : Nat) (station : Station) :
    Poll World Station := do
  match ← Poll.converse (Dialogue.receive devices) with
  | .error failure =>
      Poll.say [.warn .station s!"Serial read failed: {failure.message}"]
      return station
  | .ok received =>
      if received.val.isEmpty then
        return station
      else
        Poll.say station.power.wakeEntries
        let power ← station.power.hear now
        match station.bytes.enqueue received.val with
        | (.ok (), bytes) => return { station with power, bytes }
        | (.error full, bytes) =>
            Poll.say [.debug .station s!"GPS byte queue flushed: {full.message}"]
            return { station with power, bytes }

def assemble (station : Station) : Dialogue World Station := do
  let (bytes, assembly) := station.framer.drain station.bytes station.sentences
  Dialogue.say assembly.journal.toList
  return { station with
    bytes
    framer := assembly.framer
    sentences := assembly.sentences }

def hearSentence (devices : Devices World) (now : Nat) (reception : Reception)
    (sentence : Nmea.Sentence) : Dialogue World Reception := do
  let fields := Nmea.Fields.ofBytes sentence.bytes
  if fields.tag = Nmea.fixTag then
    reception.handle devices fields now
  else
    Dialogue.say [.debug .station s!"Ignoring sentence {sentence.display}"]
    return reception

def hearSentences (devices : Devices World) (now : Nat) (station : Station) :
    Dialogue World Station := do
  let (sentences, emptied) := station.sentences.dequeue station.sentences.count
  let reception ← sentences.foldlM (hearSentence devices now) station.reception
  return { station with sentences := emptied, reception }

def watch (now : Nat) (station : Station) : Poll World Station := do
  let fix ← station.reception.fix.watch now
  Poll.say (Fix.lossEntries station.reception.fix fix)
  let power := station.power.watch now
  Poll.say (ReceiverPower.silenceEntries station.power power)
  return { station with
    reception := { station.reception with fix }
    power
    drift := station.drift.observe fix.held }

/-- What the next step of synchronisation is told. -/
def inputs (now : Nat) (wallTime : Int) (station : Station) : Sync.Inputs where
  now := now
  wallTime := wallTime
  receiverPower := station.power.powered
  hasFix := station.reception.fix.held
  timeSetDone := station.reception.timeSetting.done
  driftResult := station.driftResult
  errorResult := station.reception.clockError.result

def handOn (station : Station) : Station :=
  { station with
    driftResult := none
    reception :=
      { station.reception with clockError := station.reception.clockError.take.2 } }

def advance (now : Nat) (wallTime : Int) (station : Station) :
    Poll World (List Sync.Effect × Station) := do
  match Sync.step station.sync (station.inputs now wallTime) with
  | .ok step =>
      Poll.say step.entries
      return (step.effects, { station.handOn with sync := step.state })
  | .error halted =>
      Poll.say halted.entries
      throw halted.overflow

/-! ## Effects -/

def flushQueues (station : Station) : Dialogue World Station := do
  unless station.bytes.isEmpty && station.sentences.isEmpty do
    Dialogue.say
      [.debug .station <| s!"Flushing {station.bytes.count} queued bytes and " ++
      s!"{station.sentences.count} queued sentences"]
  return { station with
    bytes := station.bytes.flush
    sentences := station.sentences.flush
    framer := station.framer.reset }

def sendCommand (devices : Devices World) (index : Nat) : Dialogue World Unit := do
  match Nmea.initialisation[index]? with
  | none => Dialogue.say [.error .station s!"No GPS init command #{index}"]
  | some command =>
      Dialogue.say [.debug .station s!"Sending GPS init command #{index + 1}"]
      match ← Dialogue.ask devices (.write command) with
      | .ok _ => pure ()
      | .error failure =>
          Dialogue.say [.warn .station <|
            s!"Could not send GPS init command #{index + 1}: {failure.message}"]

def adjustClock (devices : Devices World) (adjustment : Adjustment) :
    Dialogue World Unit := do
  Dialogue.say [.info .station <|
    s!"Applying clock compensation: {Decimal.fixed 9 adjustment.rate} s/s " ++
      s!"(tick={adjustment.tick}, freq={adjustment.frequency})"]
  match ← Dialogue.ask devices (.adjust adjustment) with
  | .ok _ => pure ()
  | .error failure =>
      Dialogue.say [.warn .station s!"Could not set system clock rate: {failure.message}"]

def persistClock (devices : Devices World) : Dialogue World Unit := do
  match ← Dialogue.ask devices .persist with
  | .ok _ => pure ()
  | .error failure =>
      Dialogue.say [.warn .station s!"Could not set hardware clock: {failure.message}"]

def status (station : Station) (lastSynchronised : Int) (error : Float) : Pulse.Status :=
  .ofError lastSynchronised error station.reception.fix.latitude
    station.reception.fix.longitude

def carryOut (devices : Devices World) (station : Station) :
    Sync.Effect → Dialogue World Station
  | .flushQueues => station.flushQueues
  | .sendInit index => do
      sendCommand devices index
      return station
  | .clearFix =>
      return { station with
        reception := { station.reception with fix := station.reception.fix.lose } }
  | .abortDrift => do
      let drift ← station.drift.abort devices
      return { station with drift }
  | .startDrift => do
      let drift ← station.drift.start devices
      return { station with drift }
  | .finishDrift => do
      let (result, drift) ← station.drift.stop devices
      return { station with drift, driftResult := some result }
  | .requestTimeSet =>
      return { station with
        reception := { station.reception with timeSetting := .requested } }
  | .startError =>
      return { station with
        reception :=
          { station.reception with clockError := station.reception.clockError.start } }
  | .applyCompensation adjustment => do
      adjustClock devices adjustment
      return station
  | .persistHardwareClock => do
      persistClock devices
      return station
  | .startPseudoPulse => do
      let _ ← Dialogue.askPulse devices .startPseudoPulse
      return station
  | .publishStatus lastSynchronised error => do
      let _ ← Dialogue.askPulse devices (.publish (station.status lastSynchronised error))
      return station

/-! ## A poll -/

/-- One poll at `now`, in seconds since the station started. `wallTime` is the time of day
that a published status carries. -/
def poll (devices : Devices World) (now : Nat) (wallTime : Int) (station : Station) :
    Poll World Station := do
  let station ← station.readLink devices now
  let station ← Poll.converse station.assemble
  let station ← Poll.converse (station.hearSentences devices now)
  let station ← station.watch now
  let (effects, station) ← station.advance now wallTime
  Poll.converse (effects.foldlM (carryOut devices) station)

def shutdown (devices : Devices World) (station : Station) : Dialogue World Unit := do
  Dialogue.say
    [.info .station <| s!"GPS I/O stopping in phase {station.sync.phase.name}, " ++
    s!"{station.framer.discarded} invalid fragments discarded"]
  let _ ← Dialogue.ask devices .closeLink

end Station

end ClockDiscipline
