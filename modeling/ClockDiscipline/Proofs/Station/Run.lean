import ClockDiscipline.Proofs.Station.Parts
import ClockDiscipline.Proofs.Sync.Run

/-!
Runs of the station: polls from a new station, one after the other, with devices that do
what they want. The polls that a run has completed stand newest first.
-/

namespace ClockDiscipline.Station

open Dialogue

variable {World : Type}

/-- A completed poll and how it went. -/
structure Tick (devices : Devices World) where
  now : Nat
  wallTime : Int
  world : World
  before : Station
  /-- The station that has read the link. -/
  listening : Station
  reception : Reception
  /-- The calls that sentences led to. -/
  hearing : List Call
  middle : World
  /-- What the step of synchronisation is told about. -/
  observed : Station
  step : Sync.Step
  read : before.receive now (devices.read world).1 = .ok listening
  heard : (listening.assembled.sentences.toList.foldlM (hearSentence devices now)
    listening.assembled.reception).EvaluatesTo
      (devices.read world).2 reception hearing middle
  watched : (listening.assembled.afterHearing reception).watched now = .ok observed
  stepped : Sync.step observed.sync (observed.inputs now wallTime) = .ok step

namespace Tick

variable {devices : Devices World} (tick : Tick devices)

def sentences : List Nmea.Sentence := tick.listening.assembled.sentences.toList

def inputs : Sync.Inputs := tick.observed.inputs tick.now tick.wallTime

def acting : Station := { tick.observed.handOn with sync := tick.step.state }

def actingRequests : List Request := tick.step.effects.flatMap tick.acting.requests

def after : Station := act devices tick.step.effects tick.acting tick.middle

def calls : List Call := tick.hearing ++ devices.calls tick.actingRequests tick.middle

def next : World := devices.after tick.actingRequests tick.middle

def requests : List Request := tick.calls.map Call.request

theorem requests_eq :
    tick.requests = tick.hearing.map Call.request ++ tick.actingRequests := by
  simp [requests, calls]

/-- Ticks are the polls that meet no overflow. -/
theorem reaches_poll_iff {now : Nat} {wallTime : Int} {station after : Station}
    {world next : World} {calls : List Call} :
    (station.poll devices now wallTime).Reaches world after calls next ↔
      ∃ tick : Tick devices,
        tick.now = now ∧ tick.wallTime = wallTime ∧ tick.before = station ∧
        tick.world = world ∧ tick.after = after ∧ tick.calls = calls ∧
          tick.next = next := by
  rw [poll_eq]
  constructor
  · intro reaches
    rcases reaches.of_bind (regular_hearLink devices now station)
      (fun heard => regular_conclude devices now heard wallTime) with
      ⟨heard, hearing, middle, _, hears, concludes, rfl⟩
    rcases (reaches_hearLink_iff devices now station).mp hears with
      ⟨listening, reception, read, rfl, evaluates⟩
    rcases (reaches_conclude_iff devices now _).mp concludes with
      ⟨observed, step, watched, stepped, rfl, rfl, rfl⟩
    exact ⟨⟨now, wallTime, world, station, listening, reception, hearing, middle,
      observed, step, read, evaluates, watched, stepped⟩, rfl, rfl, rfl, rfl, rfl,
      rfl, rfl⟩
  · rintro ⟨tick, rfl, rfl, rfl, rfl, rfl, rfl, rfl⟩
    have hears := (reaches_hearLink_iff devices tick.now tick.before).mpr
      ⟨tick.listening, tick.reception, tick.read, rfl, tick.heard⟩
    exact hears.bind ((reaches_conclude_iff devices tick.now _).mpr
      ⟨tick.observed, tick.step, tick.watched, tick.stepped, rfl, rfl, rfl⟩)

/-! ## What a tick leaves alone -/

theorem listening_eq : ∃ power bytes,
    tick.listening = { tick.before with power, bytes } := by
  have read := tick.read
  unfold receive at read
  split at read
  · exact ⟨_, _, (Except.ok.inj read).symm⟩
  · split at read
    · exact ⟨_, _, (Except.ok.inj read).symm⟩
    · cases heard : tick.before.power.hear tick.now with
      | error overflow => simp [heard, bind, Except.bind] at read
      | ok power =>
          simp only [heard, bind, Except.bind] at read
          exact ⟨_, _, (Except.ok.inj read).symm⟩

theorem observed_eq : ∃ fix,
    tick.observed = { tick.listening.assembled.afterHearing tick.reception with
      reception := { tick.reception with fix }
      power := tick.listening.power.watch tick.now
      drift := tick.listening.drift.observe fix.held } := by
  have watched := tick.watched
  unfold Station.watched at watched
  cases kept : (tick.listening.assembled.afterHearing tick.reception).reception.fix.watch
      tick.now with
  | error overflow => simp [kept, bind, Except.bind] at watched
  | ok fix =>
      simp only [kept, bind, Except.bind] at watched
      exact ⟨fix, (Except.ok.inj watched).symm⟩

@[simp] theorem sync_observed : tick.observed.sync = tick.before.sync := by
  rcases tick.listening_eq with ⟨power, bytes, listening⟩
  rcases tick.observed_eq with ⟨fix, observed⟩
  rw [observed]
  simp [afterHearing, assembled, listening]

@[simp] theorem driftResult_observed :
    tick.observed.driftResult = tick.before.driftResult := by
  rcases tick.listening_eq with ⟨power, bytes, listening⟩
  rcases tick.observed_eq with ⟨fix, observed⟩
  rw [observed]
  simp [afterHearing, assembled, listening]

@[simp] theorem isOpen_observed :
    tick.observed.drift.isOpen = tick.before.drift.isOpen := by
  rcases tick.listening_eq with ⟨power, bytes, listening⟩
  rcases tick.observed_eq with ⟨fix, observed⟩
  rw [observed, listening, DriftWindow.observe]
  split <;> rfl

@[simp] theorem timeSetting_observed :
    tick.observed.reception.timeSetting = tick.reception.timeSetting := by
  rcases tick.observed_eq with ⟨fix, observed⟩
  rw [observed]

@[simp] theorem clockError_observed :
    tick.observed.reception.clockError = tick.reception.clockError := by
  rcases tick.observed_eq with ⟨fix, observed⟩
  rw [observed]

theorem hears : Reception.Heard tick.before.reception tick.sentences tick.hearing
    tick.reception := by
  rcases tick.listening_eq with ⟨power, bytes, listening⟩
  have same : tick.listening.assembled.reception = tick.before.reception := by
    rw [listening]
    rfl
  have heard := Reception.heard_of_evaluatesTo devices tick.now tick.heard
  rw [same] at heard
  exact heard

/-! ## The step of a tick -/

theorem sync_after : tick.after.sync = tick.step.state := by
  rw [after, sync_act]
  rfl

def transition : Sync.Transition :=
  ⟨tick.before.sync, tick.inputs, tick.step.effects, tick.step.state⟩

theorem stepped_before : Sync.step tick.before.sync tick.inputs = .ok tick.step := by
  rw [← tick.sync_observed]
  exact tick.stepped

theorem rule :
    Sync.Rule tick.before.sync tick.inputs tick.step.effects tick.after.sync := by
  rw [sync_after]
  exact Sync.rule_of_step tick.stepped_before

end Tick

/-! ## Runs -/

theorem makes_start_station (devices : Devices World) (timings : Sync.Timings)
    (world : World) :
    Makes devices (start devices timings) world (.initial timings)
      [.adjust (.ofRate 0.0)] := by
  have asked := Makes.ask devices (.adjust (.ofRate 0.0)) world
  cases answered : (devices.perform (.adjust (.ofRate 0.0)) world).answer with
  | ok reply =>
      rw [answered] at asked
      exact asked.bind (.pure _ _)
  | error failure =>
      rw [answered] at asked
      exact asked.bind (.after_say _ (.pure _ _))

/-- `Run devices timings past station`: the polls in `past`, newest first, lead from a new
station to `station`. Between two polls the devices may change in any way. -/
inductive Run (devices : Devices World) (timings : Sync.Timings) :
    List (Tick devices) → Station → Prop
  | start : Run devices timings [] (.initial timings)
  | poll {past : List (Tick devices)} (tick : Tick devices)
      (run : Run devices timings past tick.before) :
      Run devices timings (tick :: past) tick.after

section Requests

variable {devices : Devices World}

def requestsOf (past : List (Tick devices)) : List Request :=
  past.reverse.flatMap Tick.requests

theorem requestsOf_cons (tick : Tick devices) (past : List (Tick devices)) :
    requestsOf (tick :: past) = requestsOf past ++ tick.requests := by
  simp [requestsOf]

end Requests

namespace Run

variable {devices : Devices World} {timings : Sync.Timings} {past : List (Tick devices)}
  {station : Station}

theorem of_cons {tick : Tick devices} (run : Run devices timings (tick :: past) station) :
    Run devices timings past tick.before ∧ station = tick.after := by
  cases run with
  | poll _ run => exact ⟨run, rfl⟩

theorem of_suffix {tick : Tick devices} {earlier : List (Tick devices)}
    (run : Run devices timings past station) (suffix : tick :: earlier <:+ past) :
    Run devices timings (tick :: earlier) tick.after := by
  induction run with
  | start => simp at suffix
  | poll newest run induction =>
      rcases List.suffix_cons_iff.mp suffix with whole | within
      · cases whole
        exact .poll tick run
      · exact induction within

theorem exists_suffix_of_mem {tick : Tick devices}
    (run : Run devices timings past station) (member : tick ∈ past) :
    ∃ earlier, tick :: earlier <:+ past ∧ Run devices timings earlier tick.before := by
  rcases List.append_of_mem member with ⟨later, earlier, rfl⟩
  have suffix : tick :: earlier <:+ later ++ tick :: earlier := List.suffix_append _ _
  exact ⟨earlier, suffix, (run.of_suffix suffix).of_cons.1⟩

theorem sync (run : Run devices timings past station) :
    Sync.Run timings (past.map Tick.transition) station.sync := by
  induction run with
  | start => exact .start
  | poll tick run induction =>
      rw [Tick.sync_after]
      exact .step induction tick.inputs tick.stepped_before

end Run

end ClockDiscipline.Station
