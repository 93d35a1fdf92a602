import ClockDiscipline.Proofs.Station.Replay
import ClockDiscipline.Proofs.Sync.Synchronisation

/-!
Measurements between polls. A drift phase has either an open window or the outcome of one,
an error phase has a pending measurement, and nothing else is left over. So every outcome
that a step consumes comes from the measurement that the phase is waiting for.
-/

namespace ClockDiscipline.Station

variable {World : Type} {devices : Devices World}

/-! ## What is left between two polls -/

/-- What the measurements of a station have come to between two polls. -/
structure Measuring (station : Station) : Prop where
  driftResult : station.sync.phase = .measureDrift →
    (station.driftResult.isSome = true ↔ station.sync.awaitingDriftResult = true)
  isOpen : station.sync.phase = .measureDrift →
    (station.drift.isOpen = true ↔ station.sync.awaitingDriftResult = false)
  noDriftResult : station.sync.phase ≠ .measureDrift → station.driftResult = none
  noErrorResult : station.reception.clockError.result = none
  pending : station.sync.phase = .measureError →
    station.reception.clockError.pending = true

private theorem measuring_initial (timings : Sync.Timings) :
    (initial timings).Measuring where
  driftResult := nofun
  isOpen := nofun
  noDriftResult := fun _ => rfl
  noErrorResult := rfl
  pending := nofun

private theorem Measuring.act {before acting : Station} {inputs : Sync.Inputs}
    {effects : List Sync.Effect} (measured : before.Measuring)
    (rule : Sync.Rule before.sync inputs effects acting.sync)
    (told : inputs.driftResult = before.driftResult)
    (handedOn : acting.driftResult = none)
    (isOpen : acting.drift.isOpen = before.drift.isOpen)
    (taken : acting.reception.clockError.result = none)
    (pending : inputs.errorResult = none →
      acting.reception.clockError.pending = before.reception.clockError.pending)
    (middle : World) : (act devices effects acting middle).Measuring := by
  generalize reached : acting.sync = next at rule
  cases rule with
  | wait powered unready =>
      -- Every other rule sets what the next step relies on. Here it has to be there
      -- already.
      refine ⟨fun phase => ?_, fun phase => ?_, fun _ => handedOn, taken, fun phase => ?_⟩
      all_goals simp only [Station.act, reached] at phase ⊢
      · cases awaiting : before.sync.awaitingDriftResult with
        | false => simp [handedOn]
        | true =>
            have present := (measured.driftResult phase).mpr awaiting
            simp [Sync.State.isReady, phase, awaiting, told, present] at unready
      · rw [isOpen]
        exact measured.isOpen phase
      · have absent : inputs.errorResult = none := by
          simpa [Sync.State.isReady, phase] using unready
        rw [pending absent]
        exact measured.pending phase
  | synchronise powered phase error result accepted =>
      cases running : before.sync.pseudoPulseRunning <;>
        constructor <;>
          simp [Station.act, carriedOut, Sync.State.synchronisationEffects, running,
            reached, handedOn, taken]
  | closeWindow powered phase =>
      constructor <;> simp [Station.act, carriedOut, reached, taken, phase]
  | rejectWindow powered phase =>
      constructor <;> simp [Station.act, carriedOut, reached, handedOn, taken, phase]
  | disagree powered phase =>
      constructor <;> simp [Station.act, carriedOut, reached, handedOn, taken, phase]
  | measureAgain powered phase =>
      constructor <;> simp [Station.act, carriedOut, reached, handedOn, phase]
  | _ => constructor <;> simp [Station.act, carriedOut, reached, handedOn, taken]

private theorem Tick.measuring (tick : Tick devices) (measured : tick.before.Measuring) :
    tick.after.Measuring := by
  have rule : Sync.Rule tick.before.sync tick.inputs tick.step.effects tick.acting.sync :=
    Sync.rule_of_step tick.stepped_before
  refine measured.act rule tick.driftResult_observed rfl tick.isOpen_observed rfl
    (fun absent => ?_) tick.middle
  have unfinished : tick.reception.clockError.result = none := by
    rw [← tick.clockError_observed]
    exact absent
  have kept : tick.acting.reception.clockError.pending =
      tick.reception.clockError.pending := by
    rw [← tick.clockError_observed]
    rfl
  rw [kept]
  rcases tick.hears.clockError with same | ⟨_, _, _, _, _, _, _, ends⟩
  · rw [same]
  · simp [ends] at unfinished

theorem Run.measuring {timings : Sync.Timings} {past : List (Tick devices)}
    {station : Station}
    (run : Run devices timings past station) : station.Measuring := by
  induction run with
  | start => exact measuring_initial timings
  | poll tick run induction => exact tick.measuring induction

/-! ## Where results come from -/

/-- A window was opened with power, which has lasted since without any further effect. -/
def WindowOpen (past : List (Tick devices)) : Prop :=
  ∃ idle opening older, past = idle ++ opening :: older ∧
    Sync.Effect.startDrift ∈ opening.step.effects ∧
    (∀ tick ∈ idle, tick.step.effects = []) ∧
    ∀ tick ∈ idle ++ [opening], tick.inputs.receiverPower = true

structure Tick.Closes (tick : Tick devices) (result : Except Rejection Float) : Prop where
  powered : tick.inputs.receiverPower = true
  phase : tick.before.sync.phase = .measureDrift
  effects : tick.step.effects = [.finishDrift]
  result : result = tick.acting.drift.outcome (devices.window? tick.middle)

/-- What a run in the drift phase has done for its present window. -/
structure Windows (past : List (Tick devices)) (station : Station) : Prop where
  opened : station.sync.phase = .measureDrift → station.sync.awaitingDriftResult = false →
    WindowOpen past
  closed : station.sync.phase = .measureDrift → station.sync.awaitingDriftResult = true →
    ∀ result, station.driftResult = some result →
      ∃ closing older, past = closing :: older ∧ closing.Closes result ∧ WindowOpen older

private theorem WindowOpen.cons {past : List (Tick devices)} (opened : WindowOpen past)
    {tick : Tick devices} (powered : tick.inputs.receiverPower = true)
    (idle : tick.step.effects = []) : WindowOpen (tick :: past) := by
  rcases opened with ⟨waiting, opening, older, rfl, starts, quiet, lit⟩
  exact ⟨tick :: waiting, opening, older, rfl, starts,
    List.forall_mem_cons.mpr ⟨idle, quiet⟩, List.forall_mem_cons.mpr ⟨powered, lit⟩⟩

private theorem WindowOpen.of_start {past : List (Tick devices)} {tick : Tick devices}
    (powered : tick.inputs.receiverPower = true)
    (starts : Sync.Effect.startDrift ∈ tick.step.effects) : WindowOpen (tick :: past) :=
  ⟨[], tick, past, rfl, starts, by simp, by simpa using powered⟩

theorem Run.windows {timings : Sync.Timings} {past : List (Tick devices)}
    {station : Station}
    (run : Run devices timings past station) : Windows past station := by
  induction run with
  | start => exact ⟨nofun, nofun⟩
  | poll tick run induction =>
      constructor
      · intro phase opened
        rcases tick.rule.of_windowOpen phase opened with
          ⟨powered, starts | ⟨idle, stays, open'⟩⟩
        · exact .of_start powered starts
        · exact (induction.opened stays open').cons powered idle
      · intro phase awaiting result present
        rcases tick.rule.of_awaiting phase awaiting with
          ⟨powered, stays, ⟨effects, open'⟩ | ⟨idle, awaited, absent⟩⟩
        · refine ⟨tick, _, rfl, ⟨powered, stays, effects, ?_⟩,
            induction.opened stays open'⟩
          simp only [Tick.after, effects, act, carriedOut, Option.some.injEq] at present
          exact present.symm
        · -- An awaited outcome is never missing, so the phase cannot have waited for it.
          have there := (run.measuring.driftResult stays).mpr awaited
          have nothing : tick.before.driftResult = none :=
            tick.driftResult_observed.symm.trans absent
          simp [nothing] at there

/-- What a tick consumes comes from the measurement that the phase is waiting for: a drift
rate from the window that the tick before has closed, an error from a sentence of the tick
itself. -/
structure Tick.ConsumesItsOwn (tick : Tick devices) (earlier : List (Tick devices)) :
    Prop where
  /-- An awaited outcome is there and is consumed. -/
  prompt : tick.inputs.receiverPower = true → tick.before.sync.phase = .measureDrift →
    tick.before.sync.awaitingDriftResult = true →
      tick.transition.consumedDrift ≠ none ∧ tick.after.sync.awaitingDriftResult = false
  drift : ∀ result, tick.transition.consumedDrift = some result →
    ∃ closing older, earlier = closing :: older ∧ closing.Closes result ∧ WindowOpen older
  error : ∀ error, tick.transition.consumedError = some error →
    tick.before.reception.clockError.pending = true ∧
      ∃ sentence ∈ tick.sentences, ∃ utc atPulse, sentence.utc? = some utc ∧
        ⟨.pulse .getTime, .ok atPulse⟩ ∈ tick.hearing ∧
        error = ErrorMeasurement.errorAt atPulse utc

private theorem Tick.consumesItsOwn {timings : Sync.Timings}
    {earlier : List (Tick devices)}
    (tick : Tick devices) (run : Run devices timings earlier tick.before) :
    tick.ConsumesItsOwn earlier where
  prompt powered phase awaiting := by
    have present : tick.inputs.driftResult.isSome = true := by
      rw [show tick.inputs.driftResult =
        tick.before.driftResult from tick.driftResult_observed]
      exact (run.measuring.driftResult phase).mpr awaiting
    rcases Option.isSome_iff_exists.mp present with ⟨result, told⟩
    constructor
    · rw [Sync.Transition.consumedDrift_eq_some_iff.mpr
        ⟨⟨powered, phase, awaiting⟩, told⟩]
      exact Option.some_ne_none result
    · exact tick.rule.awaitingDriftResult_eq_false powered phase awaiting present
  drift result consumes := by
    rcases Sync.Transition.consumedDrift_eq_some_iff.mp consumes with
      ⟨⟨_, phase, awaiting⟩, told⟩
    exact run.windows.closed phase awaiting result
      (tick.driftResult_observed.symm.trans told)
  error error consumes := by
    rcases Sync.Transition.consumedError_eq_some_iff.mp consumes with ⟨_, told⟩
    have measured : tick.reception.clockError.result = some error :=
      (congrArg ErrorMeasurement.result tick.clockError_observed).symm.trans told
    rcases tick.hears.clockError with
      same | ⟨pending, sentence, member, utc, atPulse, tells, asked, ends⟩
    · rw [same, run.measuring.noErrorResult] at measured
      cases measured
    · rw [ends] at measured
      exact ⟨pending, sentence, member, utc, atPulse, tells, asked,
        (Option.some.inj measured).symm⟩

/-- Between the polls of any run the measurements are as the phase needs them, and every
poll consumes results of the measurement it is waiting for only. -/
theorem Run.measurements {timings : Sync.Timings} {past : List (Tick devices)}
    {station : Station} (run : Run devices timings past station) :
    station.Measuring ∧ ∀ tick earlier, tick :: earlier <:+ past →
      tick.before.Measuring ∧ tick.ConsumesItsOwn earlier := by
  refine ⟨run.measuring, fun tick earlier suffix => ?_⟩
  rcases (run.of_suffix suffix).of_cons with ⟨before, -⟩
  exact ⟨before.measuring, tick.consumesItsOwn before⟩

theorem measurements_of_steadyClock :
    ∃ (past : List (Tick Script.devices)) (station : Station),
      Run Script.devices .standard past station ∧ station.sync.phase = .waitForNextSync ∧
        (∃ tick ∈ past, tick.transition.consumedDrift.isSome = true) ∧
        (∃ tick ∈ past, tick.transition.consumedError.isSome = true) ∧
        station.Measuring ∧ ∀ tick earlier, tick :: earlier <:+ past →
          tick.before.Measuring ∧ tick.ConsumesItsOwn earlier := by
  have replays : ((replay? Script.devices .standard
      (atIntervals (List.replicate 24 (dated today)))).map fun run =>
        (run.2.sync.phase, run.1.any fun played => played.transition.consumedDrift.isSome,
          run.1.any fun played => played.transition.consumedError.isSome)) =
      some (.waitForNextSync, true, true) := by
    decide +kernel
  rcases exists_run_of_reads replays with ⟨past, station, run, -, reads⟩
  simp only [Prod.mk.injEq, List.any_eq_true, List.mem_map,
    exists_exists_and_eq_and] at reads
  exact ⟨past, station, run, reads.1, reads.2.1, reads.2.2, run.measurements⟩

end ClockDiscipline.Station
