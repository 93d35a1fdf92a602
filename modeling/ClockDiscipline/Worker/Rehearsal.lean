import ClockDiscipline.Station.Rehearsal
import ClockDiscipline.Worker.Basic

/-!
Workers whose stations have scripted devices. Time stands still in such a rehearsal: every
poll finds the first second.
-/

namespace ClockDiscipline.Worker

/-! ## Scripted stations in threads -/

structure Rehearsed where
  rehearsal : Rehearsal
  calls : List Call

namespace Rehearsed

def poll (station : Rehearsed) : Except Overflow Rehearsed × List Entry :=
  let report := station.rehearsal.poll [] 0 0
  let polled := ⟨report.rehearsal, station.calls ++ report.events.flatMap (·.calls)⟩
  (match report.overflow with
    | none => .ok polled
    | some overflow => .error overflow,
    report.journal.toList)

def shutDown (station : Rehearsed) : Rehearsed × List Entry :=
  let (rehearsal, calls, journal) := station.rehearsal.shutdown .bare none
  (⟨rehearsal, station.calls ++ calls⟩, journal)

def routine : Routine Rehearsed := ⟨poll, shutDown⟩

def opening (incoming : List UInt8) (timings : Sync.Timings) : Opening Rehearsed :=
  let (rehearsal, exchange) := Rehearsal.start (Script.initial.arrive incoming) timings
  ⟨.ok ⟨rehearsal, exchange.calls⟩, exchange.journal.toList⟩

end Rehearsed

/-! ## Trials -/

/-- A worker on trial: its calls are made one after the other, and its threads get their
turns between them. -/
structure Trial where
  worker : Worker Rehearsed
  watched : Option Nat
  told : Nat

namespace Trial

def new : Trial := ⟨.new, none, 0⟩

def station? (trial : Trial) : Option Rehearsed :=
  trial.watched.bind fun index => trial.worker.threads[index]?.bind Thread.station?

def news (trial : Trial) : List Call :=
  match trial.station? with
  | none => []
  | some station => station.calls.drop trial.told

def closed (trial : Trial) : Bool :=
  trial.station?.any (·.rehearsal.script.closed)

def tell (trial : Trial) : List Call × Trial :=
  (trial.news, { trial with told := trial.told + trial.news.length })

/-- Rounds in which every thread that polls does so three times. -/
def roundsOfThreePolls : Nat := 6

def start (trial : Trial) (opening : Opening Rehearsed) : Trial :=
  let started := trial.worker.call Rehearsed.routine (.start opening)
  { trial with worker := started.rounds Rehearsed.routine roundsOfThreePolls }

def startWatched (trial : Trial) (opening : Opening Rehearsed) : Trial :=
  { trial with watched := some trial.worker.threads.length, told := 0 }.start opening

def startConfigured (trial : Trial) (machine : Machine) (configuration : Configuration) :
    Trial :=
  let ((opened, entries), _) :=
    Machine.listen (Station.openDevices Machine.host configuration) machine
  let scripted := Rehearsed.opening [] configuration.sync.timings
  trial.start ⟨opened.bind fun () => scripted.outcome, entries⟩

def stop (trial : Trial) : Trial :=
  { trial with worker := trial.worker.call Rehearsed.routine .stop }

end Trial

end ClockDiscipline.Worker
