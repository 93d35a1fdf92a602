import ClockDiscipline.Proofs.Station.Queues
import ClockDiscipline.Station.Script

/-!
Replays of runs. Since the queues of a station are empty between two polls, a poll can be
computed without them, and what it does can be read off.
-/

namespace ClockDiscipline.Station

variable {World : Type} (devices : Devices World)

/-! ## Stations without queues -/

/-- The station without room in its queues. -/
def bare (station : Station) : Station :=
  { station with bytes := .empty 0, sentences := .empty 0 }

private theorem bare_carriedOut (station : Station) (window : Option Pulse.Window)
    (effect : Sync.Effect) :
    (station.carriedOut window effect).bare = station.bare.carriedOut window effect := by
  cases effect <;> rfl

private theorem requests_bare (station : Station) :
    station.bare.requests = station.requests := by
  funext effect
  cases effect <;> rfl

private theorem bare_act (effects : List Sync.Effect) :
    ∀ (station : Station) (world : World),
    (act devices effects station world).bare =
      act devices effects station.bare world := by
  induction effects with
  | nil => exact fun _ _ => rfl
  | cons effect rest induction =>
      intro station world
      rw [act, induction, bare_carriedOut, ← requests_bare, act]

private theorem watched_bare (now : Nat) (station : Station) :
    station.bare.watched now = (station.watched now).map bare := by
  unfold watched
  cases kept : station.reception.fix.watch now <;>
    simp [bare, kept, bind, Except.bind, pure, Except.pure, Except.map]

/-! ## One poll -/

/-- What can be read off a poll. -/
structure Played where
  before : Station
  transition : Sync.Transition
  calls : List Call
  after : Station

def Tick.played {devices : Devices World} (tick : Tick devices) : Played :=
  ⟨tick.before.bare, tick.transition, tick.calls, tick.after.bare⟩

def Tick.poll {devices : Devices World} (tick : Tick devices) : Nat × Int × World :=
  (tick.now, tick.wallTime, tick.world)

def finish? (now : Nat) (wallTime : Int) (before assembled : Station)
    (sentences : List Nmea.Sentence) (world : World) : Option Played :=
  let heard :=
    (sentences.foldlM (hearSentence devices now) assembled.reception).start world
  match { assembled with reception := heard.1 }.watched now with
  | .error _ => none
  | .ok observed =>
      let inputs := observed.inputs now wallTime
      match Sync.step observed.sync inputs with
      | .error _ => none
      | .ok step =>
          let acting := { observed.handOn with sync := step.state }
          some ⟨before, ⟨before.sync, inputs, step.effects, step.state⟩,
            heard.2.calls ++
              devices.calls (step.effects.flatMap acting.requests) heard.2.world,
            act devices step.effects acting heard.2.world⟩

/-- A poll of a station without queues, unless it meets an overflow. -/
def play? (now : Nat) (wallTime : Int) (world : World) (station : Station) :
    Option Played :=
  let bytes := bytesOf (devices.read world).1
  match listen now station.power bytes with
  | .error _ => none
  | .ok power =>
      let heard := heardFrom station.framer bytes
      finish? devices now wallTime station
        { station with power, framer := heard.1 } heard.2
        (devices.read world).2

variable {devices} {now : Nat} {wallTime : Int} {world : World} {station : Station}
  {played : Played}

private theorem exists_tick_of_finish? {listening : Station}
    (read : station.receive now (devices.read world).1 = .ok listening)
    (finished : finish? devices now wallTime station.bare listening.assembled.bare
      listening.assembled.sentences.toList (devices.read world).2 = some played) :
    ∃ tick : Tick devices, tick.before = station ∧ tick.poll = (now, wallTime, world) ∧
      tick.played = played := by
  let dialogue := listening.assembled.sentences.toList.foldlM (hearSentence devices now)
    listening.assembled.reception
  have heard : dialogue.EvaluatesTo _ _ _ _ := (Dialogue.Regular.foldlM
    (Reception.regular_hearSentence devices now) _).evaluatesTo_start
      (devices.read world).2
  have watched := watched_bare now
    (listening.assembled.afterHearing (dialogue.start (devices.read world).2).1)
  unfold finish? at finished
  dsimp only at finished
  split at finished
  · cases finished
  · rename_i bareObserved bareWatched
    split at finished
    · cases finished
    · rename_i step stepped
      have observes := watched.symm.trans bareWatched
      cases looked : (listening.assembled.afterHearing
          (dialogue.start (devices.read world).2).1).watched now with
      | error overflow => simp [looked, Except.map] at observes
      | ok observed =>
          rw [looked] at observes
          cases observes
          cases finished
          let tick : Tick devices :=
            ⟨now, wallTime, world, station, listening, _, _, _, observed,
            step, read, heard, looked, stepped⟩
          have asks : tick.acting.bare.requests = tick.acting.requests := requests_bare _
          have acts : tick.after.bare =
              act devices step.effects tick.acting.bare tick.middle :=
            bare_act devices step.effects tick.acting tick.middle
          refine ⟨tick, rfl, rfl, ?_⟩
          rw [Tick.played, acts, Tick.calls, Tick.actingRequests, ← asks]
          rfl

private theorem exists_tick_of_play? (resting : station.Resting)
    (plays : play? devices now wallTime world station.bare = some played) :
    ∃ tick : Tick devices, tick.before = station ∧ tick.poll = (now, wallTime, world) ∧
      tick.played = played := by
  unfold play? at plays
  dsimp only at plays
  split at plays
  · cases plays
  · rename_i power listened
    have read := receive_eq now station (devices.read world).1
    rw [show listen now station.power _ = .ok power from listened] at read
    rcases resting.assembled_eq power (length_bytesOf_le (devices.read world).1) with
      ⟨heard, -⟩
    rw [show station.bare.framer = station.framer from rfl, ← heard] at plays
    exact exists_tick_of_finish? read plays

/-! ## Runs -/

/-- Polls of a new station, newest first, and the station they lead to. -/
def replay? (devices : Devices World) (timings : Sync.Timings) :
    (polls : List (Nat × Int × World)) → Option (List Played × Station)
  | [] => some ([], (initial timings).bare)
  | (now, wallTime, world) :: earlier =>
      match replay? devices timings earlier with
      | none => none
      | some (past, station) =>
          match play? devices now wallTime world station with
          | none => none
          | some played => some (played :: past, played.after)

theorem exists_run_of_replay? {timings : Sync.Timings} {polls : List (Nat × Int × World)}
    {replayed : List Played} {final : Station}
    (replays : replay? devices timings polls = some (replayed, final)) :
    ∃ past station, Run devices timings past station ∧ past.map Tick.poll = polls ∧
      past.map Tick.played = replayed ∧ station.bare = final := by
  induction polls generalizing replayed final with
  | nil =>
      cases replays
      exact ⟨[], _, .start, rfl, rfl, rfl⟩
  | cons newest earlier induction =>
      unfold replay? at replays
      split at replays
      · cases replays
      · rename_i reached
        split at replays
        · cases replays
        · rename_i plays
          cases replays
          rcases induction reached with ⟨past, station, run, rfl, rfl, rfl⟩
          rcases exists_tick_of_play? run.resting plays with ⟨tick, rfl, polled, rfl⟩
          exact ⟨tick :: past, tick.after, .poll tick run,
            by rw [List.map_cons, polled], rfl, rfl⟩

theorem exists_run_of_reads {timings : Sync.Timings} {polls : List (Nat × Int × World)}
    {Reading : Type} {read : List Played × Station → Reading} {reading : Reading}
    (reads : (replay? devices timings polls).map read = some reading) :
    ∃ past station, Run devices timings past station ∧
      replay? devices timings polls = some (past.map Tick.played, station.bare) ∧
      read (past.map Tick.played, station.bare) = reading := by
  rcases Option.map_eq_some_iff.mp reads with ⟨⟨replayed, final⟩, replays, readOff⟩
  rcases exists_run_of_replay? replays with ⟨past, station, run, -, rfl, rfl⟩
  exact ⟨past, station, run, replays, readOff⟩

section Reading

variable {past : List (Tick devices)} {holds : Played → Bool}

theorem all_played_iff : (past.map Tick.played).all holds = true ↔
    ∀ tick ∈ past, holds tick.played = true := by
  simp [List.all_map]

theorem any_played_iff : (past.map Tick.played).any holds = true ↔
    ∃ tick ∈ past, holds tick.played = true := by
  simp [List.any_map]

theorem exists_newest_of_head {Reading : Type} {read : Played → Reading}
    {reading : Reading} (reads : (past.map Tick.played).head?.map read = some reading) :
    ∃ tick earlier, past = tick :: earlier ∧ read tick.played = reading := by
  cases past with
  | nil => cases reads
  | cons tick earlier => exact ⟨tick, earlier, rfl, Option.some.inj reads⟩

end Reading

/-! ## Scripted polls -/

/-- Devices on whose link an active sentence of this date waits, and whose clock has no
drift. -/
def dated (date : String) : Script :=
  { Script.initial with
    incoming := Text.Latin.encode
      s!"$GPRMC,134724,A,4700.0000,N,00800.0000,E,0.0,0.0,{date},0,\r\n"
    windows := ⟨⟨⟨0, 0⟩, ⟨30, 0⟩, 30⟩, []⟩ }

def today : String := "180510"

/-- Devices with a usable date, whose clock gains and is ahead. -/
def fastClock : Script :=
  { dated today with
    windows := ⟨⟨⟨0, 0⟩, ⟨30, 315⟩, 30⟩, []⟩
    pulses := ⟨⟨1274190444, 900⟩, []⟩ }

def everyMinute : Sync.Timings := { Sync.Timings.standard with syncPeriod := 60 }

/-- Polls at intervals long enough for every delay, newest first. -/
def atIntervals (worlds : List Script) : List (Nat × Int × Script) :=
  (worlds.mapIdx fun index world => (100 * index, 100 * (index : Int), world)).reverse

end ClockDiscipline.Station
