import ClockDiscipline.Host.Machine
import ClockDiscipline.Station.Opening
import ClockDiscipline.Station.Script

/-!
Rehearsals: a station works with scripted devices, and each poll is reported.
-/

namespace ClockDiscipline

structure Rehearsal where
  station : Station
  script : Script

namespace Rehearsal

/-- A poll worth telling: it changed the phase or asked something of the devices. -/
structure Event where
  now : Nat
  phase : Sync.Phase
  calls : List Call

structure Report where
  rehearsal : Rehearsal
  events : List Event
  journal : Array Entry
  overflow : Option Overflow

def start (script : Script) (timings : Sync.Timings) : Rehearsal × Exchange Script :=
  let (station, exchange) := (Station.start Script.devices timings).start script
  (⟨station, exchange.world⟩, exchange)

def poll (rehearsal : Rehearsal) (bytes : List UInt8) (now : Nat) (wallTime : Int) :
    Report :=
  let arrived := rehearsal.script.arrive bytes
  let (outcome, exchange) :=
    (rehearsal.station.poll Script.devices now wallTime).run.start arrived
  -- A poll that meets an overflow leaves the station as it was.
  let (station, overflow) := match outcome with
    | .ok station => (station, none)
    | .error overflow => (rehearsal.station, some overflow)
  let telling := station.sync.phase ≠ rehearsal.station.sync.phase ∨ exchange.calls ≠ []
  { rehearsal := ⟨station, exchange.world⟩
    events := if telling then [⟨now, station.sync.phase, exchange.calls⟩] else []
    journal := exchange.journal
    overflow }

def polls (bytes : List UInt8) (stride : Nat) :
    (count : Nat) → (now : Nat) → (wallTime : Int) → Report → Report
  | 0, _, _, report => report
  | count + 1, now, wallTime, report =>
      let next := report.rehearsal.poll bytes now wallTime
      let report : Report :=
        ⟨next.rehearsal, next.events ++ report.events, report.journal ++ next.journal,
          next.overflow⟩
      if next.overflow.isSome then report
      else polls bytes stride count (now + stride) (wallTime + stride) report

def pollRepeatedly (rehearsal : Rehearsal) (bytes : List UInt8) (count stride now : Nat)
    (wallTime : Int) : Report :=
  let report := polls bytes stride count now wallTime ⟨rehearsal, [], #[], none⟩
  { report with events := report.events.reverse }

def shutdown (rehearsal : Rehearsal) (machine : Machine) (removeCommand : Option String) :
    Rehearsal × List Call × List Entry :=
  let ((), exchange) := (rehearsal.station.shutdown Script.devices).start rehearsal.script
  let removal := DriverCommand.remove.perform Machine.host removeCommand
  let ((), entries) := (Machine.listen removal machine).1
  ({ rehearsal with script := exchange.world }, exchange.calls,
    exchange.journal.toList ++ entries)

end Rehearsal

end ClockDiscipline
