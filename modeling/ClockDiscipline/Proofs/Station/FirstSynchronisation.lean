import ClockDiscipline.Proofs.Station.SteadyPoll
import ClockDiscipline.Proofs.Sync.Schedule

/-!
A first synchronisation from beginning to end. With a poll each second in which all is
well, and measurements that agree, a station is synchronised after a number of polls that
its delays decide, and what it has asked of the devices until then is known request for
request.
-/

namespace ClockDiscipline

/-! ## Requests of the stages -/

namespace Sync.Stage

def preparation (time : Timestamp) : List Request :=
  Nmea.initialisation.map .write ++
    [.pulse (.setTime time), .pulse .stopDrift, .pulse .startDrift]

def reopening : List Request := [.pulse .stopDrift, .pulse .getDrift, .pulse .startDrift]

def measurement (time : Timestamp) (errors : Nat) : List Request :=
  preparation time ++ (List.replicate 4 reopening).flatten ++
    [.pulse .stopDrift, .pulse .getDrift] ++ List.replicate errors (.pulse .getTime)

/-- What has been asked of the devices when a stage is entered. -/
def requests (time : Timestamp) (adjustment : Adjustment) (status : Pulse.Status) :
    Stage → List Request
  | waking => []
  | init1 => (Nmea.initialisation.take 1).map .write
  | init2 => (Nmea.initialisation.take 2).map .write
  | init3 => (Nmea.initialisation.take 3).map .write
  | firstFix => Nmea.initialisation.map .write
  | settle1 => Nmea.initialisation.map .write
  | setSystemTime => Nmea.initialisation.map .write
  | settle2 => Nmea.initialisation.map .write ++ [.pulse (.setTime time)]
  | window number => preparation time ++ (List.replicate number reopening).flatten
  | outcome number => preparation time ++ (List.replicate number reopening).flatten ++
      [.pulse .stopDrift, .pulse .getDrift]
  | error number => measurement time number
  | synchronised => measurement time agreementSize ++
      [.adjust adjustment, .pulse .startPseudoPulse, .persist, .pulse (.publish status)]

end Sync.Stage

def Request.command? : Request → Option (List UInt8)
  | .write bytes => some bytes
  | _ => none

def Request.status? : Request → Option Pulse.Status
  | .pulse (.publish status) => some status
  | _ => none

/-- The requests prepare the receiver once, and set, measure and publish as often as one
synchronisation does. -/
structure SynchroniseOnce (requests : List Request) : Prop where
  commands : requests.filterMap Request.command? = Nmea.initialisation
  times : (timesSet requests).length = 1
  windows : requests.count (.pulse .getDrift) = 5
  errors : requests.count (.pulse .getTime) = 5
  pseudoPulses : requests.count (.pulse .startPseudoPulse) = 1
  statuses : (requests.filterMap Request.status?).length = 1

private theorem Sync.Stage.synchroniseOnce (time : Timestamp) (adjustment : Adjustment)
    (status : Pulse.Status) :
    SynchroniseOnce (synchronised.requests time adjustment status) :=
  ⟨rfl, rfl, rfl, rfl, rfl, rfl⟩

namespace Station

variable {World : Type} {devices : Devices World}

/-! ## Stations between the polls -/

/-- What a station is like between two polls in a stage of a first synchronisation. -/
structure At (stage : Sync.Stage) (station : Station) : Prop where
  line : station.framer.line = []
  timeSetting : station.reception.timeSetting.pending = decide (stage = .setSystemTime)
  clockError : station.reception.clockError = ⟨decide (stage.phase = .measureError), none⟩
  driftResult : ∃ rate,
    station.driftResult = if stage.awaits then some (.ok rate) else none
  lostFix : station.drift.lostFix = false

private theorem at_initial (timings : Sync.Timings) : (initial timings).At .waking :=
  ⟨rfl, rfl, rfl, ⟨0, rfl⟩, rfl⟩

namespace Cleared

variable {acting : Station} {stage : Sync.Stage}

private theorem stays (cleared : acting.Cleared) {timings : Sync.Timings}
    (longer : stage.entry timings < stage.last timings)
    (lostFix : acting.drift.lostFix = false) : acting.At stage := by
  rcases Sync.Stage.of_entry_lt_last longer with ⟨unawaited, elsewhere, unmeasured⟩
  refine ⟨cleared.line, ?_, ?_, ⟨0, ?_⟩, lostFix⟩
  · rw [cleared.timeSetting, decide_eq_false elsewhere]
  · rw [cleared.clockError, decide_eq_false unmeasured]
  · rw [cleared.driftResult, unawaited]
    rfl

/-- The effects at the end of a stage make ready what the next stage needs. -/
private theorem leaves (cleared : acting.Cleared) (adjustment : Adjustment)
    (wallTime : Int) (clockError : Float) (world : World)
    (lostFix : acting.drift.lostFix = false)
    (rated : ∀ number, stage = .window number → ∃ window rate,
      devices.window? world = some window ∧ window.driftRate = .ok rate) :
    (act devices (stage.effects adjustment wallTime clockError) acting world).At
      stage.next := by
  rcases cleared with ⟨line, timeSetting, measured, driftResult⟩
  cases stage with
  | waking => exact ⟨rfl, timeSetting, measured, ⟨0, driftResult⟩, lostFix⟩
  | settle1 => exact ⟨line, rfl, measured, ⟨0, driftResult⟩, lostFix⟩
  | settle2 => exact ⟨line, timeSetting, measured, ⟨0, driftResult⟩, rfl⟩
  | window number =>
      rcases rated number rfl with ⟨window, rate, told, rate_eq⟩
      refine ⟨line, timeSetting, measured, ⟨rate, ?_⟩, lostFix⟩
      simp [Sync.Stage.effects, act, carriedOut, told, DriftWindow.outcome,
        DriftWindow.judge, rate_eq, lostFix, Sync.Stage.next, Sync.Stage.awaits]
  | outcome number =>
      by_cases fifth : number + 1 = agreementSize
      · rw [Sync.Stage.next_outcome_fifth fifth, Sync.Stage.effects, if_pos fifth]
        exact ⟨line, timeSetting, rfl, ⟨0, driftResult⟩, lostFix⟩
      · rw [Sync.Stage.next_outcome fifth, Sync.Stage.effects, if_neg fifth]
        exact ⟨line, timeSetting, measured, ⟨0, driftResult⟩, rfl⟩
  | error number =>
      by_cases fifth : number + 1 = agreementSize
      · rw [Sync.Stage.next_error_fifth fifth, Sync.Stage.effects, if_pos fifth]
        exact ⟨line, timeSetting, measured, ⟨0, driftResult⟩, lostFix⟩
      · rw [Sync.Stage.next_error fifth, Sync.Stage.effects, if_neg fifth]
        exact ⟨line, timeSetting, rfl, ⟨0, driftResult⟩, lostFix⟩
  | _ => exact ⟨line, timeSetting, measured, ⟨0, driftResult⟩, lostFix⟩

end Cleared

/-! ## What a poll measures -/

def Tick.rate (tick : Tick devices) : Option Float :=
  tick.after.driftResult.bind Except.toOption

/-- The drift rates that the polls of a run have measured, oldest first. -/
def ratesOf (past : List (Tick devices)) : List Float :=
  (past.filterMap Tick.rate).reverse

def errorsOf (past : List (Tick devices)) : List Float :=
  Sync.errors (past.map Tick.transition)

private theorem ratesOf_cons (tick : Tick devices) (past : List (Tick devices)) :
    ratesOf (tick :: past) = ratesOf past ++ tick.rate.toList := by
  cases measured : tick.rate <;> simp [ratesOf, measured]

private theorem errorsOf_cons (tick : Tick devices) (past : List (Tick devices)) :
    errorsOf (tick :: past) = errorsOf past ++ tick.transition.consumedError.toList :=
  Sync.errors_cons _ _

/-! ## One poll of a schedule -/

/-- A first synchronisation that begins at `start` has come to `stage`. -/
structure Scheduled (timings : Sync.Timings) (start : Nat) (past : List (Tick devices))
    (stage : Sync.Stage) (station : Station) : Prop where
  holds : stage.Holds timings start (past.map Tick.transition) station.sync
  between : station.At stage
  rates : ratesOf past = Sync.rates (past.map Tick.transition) ++
    (station.driftResult.bind Except.toOption).toList
  requests : ∃ time adjustment status,
    requestsOf past = stage.requests time adjustment status

private theorem scheduled_initial (timings : Sync.Timings) (start : Nat) :
    Scheduled timings start ([] : List (Tick devices)) .waking (initial timings) :=
  ⟨Sync.Stage.holds_initial timings start, at_initial timings, rfl, .ofSeconds 0,
    .nominal, .ofError 0 0 "" "", rfl⟩

namespace Scheduled

variable {timings : Sync.Timings} {start : Nat} {past : List (Tick devices)}
  {stage : Sync.Stage} {tick : Tick devices}

private theorem ratesOf_poll (scheduled : Scheduled timings start past stage tick.before)
    (powered : tick.inputs.receiverPower = true) :
    ratesOf (tick :: past) = Sync.rates ((tick :: past).map Tick.transition) ++
      (tick.after.driftResult.bind Except.toOption).toList := by
  have consumed : tick.transition.consumedRate =
      tick.before.driftResult.bind Except.toOption := by
    have told : tick.inputs.driftResult = tick.before.driftResult :=
      tick.driftResult_observed
    have awaiting := scheduled.holds.awaiting
    have phase := scheduled.holds.phase
    cases stage with
    | outcome number =>
        simp [Sync.Transition.consumedRate, Sync.Transition.consumedDrift,
          Tick.transition, powered, phase, Sync.Stage.phase, awaiting,
          Sync.Stage.awaits, told]
    | _ =>
        rcases scheduled.between.driftResult with ⟨rate, result⟩
        simp [Sync.Transition.consumedRate, Sync.Transition.consumedDrift,
          Tick.transition, awaiting, Sync.Stage.awaits, result]
  rw [ratesOf_cons, scheduled.rates, List.map_cons, Sync.rates_cons, consumed]
  rfl

private theorem hearing_eq (scheduled : Scheduled timings start past stage tick.before)
    (informs : tick.Informs) : ∃ time, tick.hearing.map Call.request =
      (if stage = .setSystemTime then [.pulse (.setTime time)] else []) ++
        if stage.phase = .measureError then [.pulse .getTime] else [] := by
  rcases informs.hearing with ⟨utc, hearing⟩
  refine ⟨.ofSeconds (utc + 1), ?_⟩
  rw [hearing, Reception.requests, scheduled.between.timeSetting,
    scheduled.between.clockError]
  simp only [decide_eq_true_eq]

private theorem requests_leave
    (scheduled : Scheduled timings start past stage tick.before)
    (informs : tick.Informs) (goesOn : stage ≠ .synchronised) {adjustment : Adjustment}
    {wallTime : Int} {clockError : Float}
    (effects : tick.step.effects = stage.effects adjustment wallTime clockError) :
    ∃ time adjustment status, requestsOf (tick :: past) =
      stage.next.requests time adjustment status := by
  rcases scheduled.requests with ⟨time, formerAdjustment, formerStatus, asked⟩
  rcases scheduled.hearing_eq informs with ⟨second, hearing⟩
  have asks := requestsOf_cons tick past
  rw [asked, tick.requests_eq, hearing, Tick.actingRequests, effects] at asks
  rw [asks]
  cases stage with
  | synchronised => exact absurd rfl goesOn
  | setSystemTime => exact ⟨second, adjustment, formerStatus, rfl⟩
  | settle2 =>
      refine ⟨time, adjustment, formerStatus, ?_⟩
      simp [Sync.Stage.next, Sync.Stage.requests, Sync.Stage.preparation,
        Sync.Stage.effects, Station.requests, Sync.Stage.phase]
  | window number =>
      refine ⟨time, adjustment, formerStatus, ?_⟩
      simp [Sync.Stage.next, Sync.Stage.requests, Sync.Stage.effects, Station.requests,
        Sync.Stage.phase]
  | outcome number =>
      refine ⟨time, adjustment, formerStatus, ?_⟩
      by_cases fifth : number + 1 = agreementSize
      · have four : number = 4 := Nat.succ.inj fifth
        simp [Sync.Stage.next, Sync.Stage.requests, Sync.Stage.measurement,
          Sync.Stage.effects, Station.requests, Sync.Stage.phase, four]
      · simp [Sync.Stage.next, Sync.Stage.requests, Sync.Stage.reopening,
          Sync.Stage.effects, Station.requests, Sync.Stage.phase, fifth,
          List.replicate_succ']
  | error number =>
      by_cases fifth : number + 1 = agreementSize
      · refine ⟨time, adjustment, tick.acting.status wallTime clockError, ?_⟩
        simp [Sync.Stage.next, Sync.Stage.requests, Sync.Stage.measurement,
          Sync.Stage.effects, Station.requests, Sync.Stage.phase, ← fifth,
          List.replicate_succ']
      · refine ⟨time, adjustment, formerStatus, ?_⟩
        simp [Sync.Stage.next, Sync.Stage.requests, Sync.Stage.measurement,
          Sync.Stage.effects, Station.requests, Sync.Stage.phase, fifth,
          List.replicate_succ']
  | _ => exact ⟨time, adjustment, formerStatus, rfl⟩

private theorem requests_stay (scheduled : Scheduled timings start past stage tick.before)
    (informs : tick.Informs) (longer : stage.entry timings < stage.last timings)
    (idle : tick.step.effects = []) : requestsOf (tick :: past) = requestsOf past := by
  rcases Sync.Stage.of_entry_lt_last longer with ⟨-, elsewhere, unmeasured⟩
  rcases scheduled.hearing_eq informs with ⟨time, hearing⟩
  rw [requestsOf_cons, tick.requests_eq, hearing, Tick.actingRequests, idle,
    if_neg elsewhere, if_neg unmeasured]
  simp

private theorem rateAgrees {station : Station} {inputs : Sync.Inputs}
    (scheduled : Scheduled timings start past stage station)
    (agree : agreementSize ≤ (ratesOf past).length →
      Agreement.Agree Agreement.driftTolerance ((ratesOf past).take agreementSize))
    (told : inputs.driftResult = station.driftResult) (awaits : stage.awaits = true) :
    Sync.RateAgrees (past.map Tick.transition) inputs := by
  rcases scheduled.between.driftResult with ⟨rate, result⟩
  rw [if_pos awaits] at result
  have rates := scheduled.rates
  rw [result] at rates
  refine ⟨rate, told.trans result, fun fifth => ?_⟩
  have five : (ratesOf past).length = agreementSize := by
    rw [rates, List.length_append]
    exact fifth
  have measured := agree five.ge
  rw [List.take_of_length_le five.le, rates] at measured
  exact measured

private theorem errorAgrees (scheduled : Scheduled timings start past stage tick.before)
    (powered : tick.inputs.receiverPower = true)
    (agree : agreementSize ≤ (errorsOf (tick :: past)).length →
      Agreement.Agree Agreement.errorTolerance
        ((errorsOf (tick :: past)).take agreementSize)) :
    Sync.ErrorAgrees (past.map Tick.transition) tick.inputs := by
  intro error told fifth
  have phase : tick.before.sync.phase = .measureError := by
    rw [scheduled.holds.errors] at fifth
    exact scheduled.holds.phase.trans (Sync.Stage.phase_of_errorsLearnt fifth)
  have consumed : tick.transition.consumedError = some error :=
    Sync.Transition.consumedError_eq_some_iff.mpr ⟨⟨powered, phase⟩, told⟩
  have errors : errorsOf (tick :: past) =
      Sync.errors (past.map Tick.transition) ++ [error] := by
    rw [errorsOf_cons, consumed]
    rfl
  have five : (errorsOf (tick :: past)).length = agreementSize := by
    rw [errors, List.length_append]
    exact fifth
  have measured := agree five.ge
  rw [List.take_of_length_le five.le, errors] at measured
  exact measured

private theorem poll (scheduled : Scheduled timings start past stage tick.before)
    (resting : tick.before.Resting) (steady : tick.Steady)
    (now : tick.now = start + past.length) (goesOn : stage ≠ .synchronised)
    (rates : agreementSize ≤ (ratesOf past).length →
      Agreement.Agree Agreement.driftTolerance ((ratesOf past).take agreementSize))
    (errors : agreementSize ≤ (errorsOf (tick :: past)).length →
      Agreement.Agree Agreement.errorTolerance
        ((errorsOf (tick :: past)).take agreementSize)) :
    ∃ next, Scheduled timings start (tick :: past) next tick.after := by
  have informs := steady.informs resting scheduled.between.line
  have rule : Sync.Rule tick.before.sync tick.inputs tick.step.effects tick.step.state :=
    Sync.rule_of_step tick.stepped_before
  have told : tick.inputs.now = start + (past.map Tick.transition).length := by
    rw [List.length_map]
    exact now
  have holds := scheduled.holds
  have between := scheduled.between
  have measured := scheduled.ratesOf_poll informs.powered
  have lostFix : tick.acting.drift.lostFix = false := by
    rw [informs.drift]
    exact between.lostFix
  rcases Nat.lt_or_eq_of_le holds.lasts with early | ended
  · rcases holds.stay rule told informs.powered early with ⟨idle, remains⟩
    have longer := Nat.lt_of_le_of_lt holds.entered early
    refine ⟨stage, ?_, ?_, measured, ?_⟩
    · rw [tick.sync_after]
      exact remains
    · rw [Tick.after, idle]
      exact informs.cleared.stays longer lostFix
    · rw [scheduled.requests_stay informs longer idle]
      exact scheduled.requests
  · have pending : tick.inputs.driftResult = tick.before.driftResult :=
      tick.driftResult_observed
    have rateAgrees := scheduled.rateAgrees rates pending
    have errorAgrees := scheduled.errorAgrees informs.powered errors
    have ready : tick.before.sync.isReady tick.inputs = true := by
      refine holds.isReady ended told informs.hasFix (fun waits => ?_) (fun awaits => ?_)
        (fun measures => ?_)
      · refine informs.timeSetDone ?_
        rw [between.timeSetting, decide_eq_true waits]
      · rcases rateAgrees awaits with ⟨rate, result, -⟩
        rw [result]
        rfl
      · refine informs.errorResult ?_
        rw [between.clockError, decide_eq_true measures]
    rcases holds.leave rule ended goesOn told informs.powered ready rateAgrees
      errorAgrees with
      ⟨leads, adjustment, clockError, effects⟩
    refine ⟨stage.next, ?_, ?_, measured, scheduled.requests_leave informs goesOn effects⟩
    · rw [tick.sync_after]
      exact leads
    · rw [Tick.after, effects]
      refine informs.cleared.leaves adjustment _ clockError tick.middle lostFix
        fun number opened => steady.exists_rate ?_
      rw [effects, opened]
      exact List.mem_singleton_self _

end Scheduled

/-! ## All polls of a schedule -/

/-- Polls in which all is well, one each second from `start` on. The first five rates
agree, and so do the first five errors. -/
structure SteadyFrom (start : Nat) (past : List (Tick devices)) : Prop where
  instants : ∀ tick earlier, tick :: earlier <:+ past → tick.now = start + earlier.length
  steady : ∀ tick ∈ past, tick.Steady
  rates : agreementSize ≤ (ratesOf past).length →
    Agreement.Agree Agreement.driftTolerance ((ratesOf past).take agreementSize)
  errors : agreementSize ≤ (errorsOf past).length →
    Agreement.Agree Agreement.errorTolerance ((errorsOf past).take agreementSize)

namespace SteadyFrom

variable {start : Nat} {past : List (Tick devices)} {tick : Tick devices}

private theorem of_cons (steady : SteadyFrom start (tick :: past)) :
    SteadyFrom start past where
  instants other earlier suffix :=
    steady.instants other earlier (suffix.trans (List.suffix_cons tick past))
  steady other member := steady.steady other (List.mem_cons_of_mem _ member)
  rates enough := by
    have agree := steady.rates
    rw [ratesOf_cons, List.length_append, List.take_append_of_le_length enough] at agree
    exact agree (Nat.le_add_right_of_le enough)
  errors enough := by
    have agree := steady.errors
    rw [errorsOf_cons, List.length_append, List.take_append_of_le_length enough] at agree
    exact agree (Nat.le_add_right_of_le enough)

private theorem now_le (steady : SteadyFrom start past) :
    ∀ tick ∈ past, tick.now ≤ start + past.length := by
  intro tick member
  rcases List.append_of_mem member with ⟨later, earlier, rfl⟩
  rw [steady.instants tick earlier (List.suffix_append _ _)]
  simp only [List.length_append, List.length_cons]
  omega

end SteadyFrom

namespace Run

variable {timings : Sync.Timings} {past : List (Tick devices)} {station : Station}
  {start : Nat}

private theorem exists_scheduled (run : Run devices timings past station)
    (steady : SteadyFrom start past) (short : past.length ≤ timings.completion + 1) :
    ∃ stage, Scheduled timings start past stage station := by
  induction run with
  | start => exact ⟨.waking, scheduled_initial timings start⟩
  | @poll earlier tick run induction =>
      rw [List.length_cons] at short
      rcases induction steady.of_cons (by omega) with ⟨stage, scheduled⟩
      refine scheduled.poll run.resting (steady.steady tick (List.mem_cons_self ..))
        (steady.instants tick earlier (List.suffix_refl _)) ?_ steady.of_cons.rates
          steady.errors
      rintro rfl
      have entered := scheduled.holds.entered
      rw [List.length_map] at entered
      have late : Sync.Stage.synchronised.entry timings = timings.completion + 1 := rfl
      omega

/-- A station that is polled each second, while all is well, is synchronised for the first
time in the poll that its delays decide. Until then every poll comes to an end, and what
was asked of the devices is one synchronisation. -/
theorem synchronises (run : Run devices timings past station)
    (steady : SteadyFrom start past)
    (silenceRoom : start + timings.completion + powerTimeout < unsignedLimit)
    (periodRoom : start + timings.completion + timings.syncPeriod < unsignedLimit) :
    (past.length ≤ timings.completion → station.sync.phase ≠ .waitForNextSync ∧
      ∀ wallTime world, ∃ tick : Tick devices, tick.now = start + past.length ∧
        tick.wallTime = wallTime ∧ tick.before = station ∧ tick.world = world) ∧
    (past.length = timings.completion + 1 →
      station.sync.phase = .waitForNextSync ∧ SynchroniseOnce (requestsOf past)) := by
  have late : Sync.Stage.synchronised.entry timings = timings.completion + 1 := rfl
  constructor
  · intro short
    rcases run.exists_scheduled steady (Nat.le_succ_of_le short) with ⟨stage, scheduled⟩
    have entered := scheduled.holds.entered
    rw [List.length_map] at entered
    have goesOn : stage ≠ .synchronised := by
      rintro rfl
      omega
    constructor
    · rw [scheduled.holds.phase]
      exact Sync.Stage.phase_ne_waitForNextSync goesOn
    · intro wallTime world
      have confirmed := run.lastConfirmed_le steady.now_le
      have sooner : fixTimeout < powerTimeout := by decide
      refine Station.exists_tick wallTime world (by omega)
        (by omega) fun inputs now told => ?_
      rw [← List.length_map Tick.transition] at now
      have soon :=
        scheduled.holds.deadline_le (station.sync.rule_advance inputs) goesOn now
        (scheduled.rateAgrees steady.rates told)
      omega
  · intro long
    rcases run.exists_scheduled steady long.le with ⟨stage, scheduled⟩
    have lasts := scheduled.holds.lasts
    rw [List.length_map, long] at lasts
    have done : stage = .synchronised := by
      by_contra goesOn
      have soon := Sync.Stage.last_le_completion timings scheduled.holds.occurs goesOn
      omega
    subst done
    rcases scheduled.requests with ⟨time, adjustment, status, requests⟩
    refine ⟨scheduled.holds.phase, ?_⟩
    rw [requests]
    exact Sync.Stage.synchroniseOnce time adjustment status

end Run

/-! ## A synchronisation with short delays -/

def eachSecond (start : Nat) : (worlds : List World) → List (Nat × Int × World)
  | [] => []
  | world :: earlier =>
      (start + earlier.length, (earlier.length : Int), world) :: eachSecond start earlier

private theorem length_eachSecond (start : Nat) (worlds : List World) :
    (eachSecond start worlds).length = worlds.length := by
  induction worlds with
  | nil => rfl
  | cons world earlier induction => exact congrArg (· + 1) induction

private theorem mem_of_eachSecond {start now : Nat} {wallTime : Int} {world : World}
    {worlds : List World}
    (member : (now, wallTime, world) ∈ eachSecond start worlds) : world ∈ worlds := by
  induction worlds with
  | nil => cases member
  | cons newest earlier induction =>
      rcases List.mem_cons.mp member with same | before
      · cases same
        exact List.mem_cons_self ..
      · exact List.mem_cons_of_mem _ (induction before)

private theorem now_of_eachSecond {start : Nat} {past : List (Tick devices)} :
    ∀ {worlds : List World},
    past.map Tick.poll = eachSecond start worlds →
      ∀ tick earlier, tick :: earlier <:+ past →
      tick.now = start + earlier.length := by
  induction past with
  | nil =>
      intro worlds polled tick earlier suffix
      simp at suffix
  | cons newest past induction =>
      intro worlds polled tick earlier suffix
      cases worlds with
      | nil => cases polled
      | cons world worlds =>
          simp only [List.map_cons, eachSecond, List.cons.injEq] at polled
          rcases List.suffix_cons_iff.mp suffix with whole | within
          · cases whole
            have number := congrArg List.length polled.2
            rw [List.length_map, length_eachSecond] at number
            rw [number]
            exact congrArg Prod.fst polled.1
          · exact induction polled.2 tick earlier within

def Played.rate (played : Played) : Option Float :=
  played.after.driftResult.bind Except.toOption

def isRated : Call → Bool
  | ⟨.pulse .getDrift, .ok window⟩ => window.driftRate.isOk
  | _ => true

def isSteady (replayed : List Played) : Bool :=
  (replayed.all fun played => played.calls.all fun call =>
    call.accepted && isRated call) &&
    decide (Agreement.Agree Agreement.driftTolerance
      ((replayed.filterMap Played.rate).reverse.take agreementSize)) &&
    decide (Agreement.Agree Agreement.errorTolerance
      ((Sync.errors (replayed.map Played.transition)).take agreementSize))

private theorem steadyFrom_of_isSteady {start : Nat} {worlds : List World}
    {past : List (Tick devices)} (polled : past.map Tick.poll = eachSecond start worlds)
    (telling : ∀ world ∈ worlds, ∃ sentence : Nmea.Sentence,
      bytesOf (devices.read world).1 = sentence.bytes ∧ sentence.IsLine ∧
        sentence.utc?.isSome = true)
    (steady : isSteady (past.map Tick.played) = true) : SteadyFrom start past := by
  simp only [isSteady, Bool.and_eq_true, List.all_eq_true, decide_eq_true_eq] at steady
  rcases steady with ⟨⟨calls, rates⟩, errors⟩
  refine ⟨now_of_eachSecond polled, fun tick member => ⟨?_, ?_, ?_⟩, fun _ => ?_,
    fun _ => ?_⟩
  · have world : tick.poll ∈ eachSecond start worlds := by
      rw [← polled]
      exact List.mem_map_of_mem member
    exact telling tick.world (mem_of_eachSecond world)
  · exact fun call called => (calls _ (List.mem_map_of_mem member) call called).1
  · intro window called
    have rated := (calls _ (List.mem_map_of_mem member) _ called).2
    cases outcome : window.driftRate with
    | ok rate => exact ⟨rate, rfl⟩
    | error rejection => simp [isRated, outcome, Except.isOk, Except.toBool] at rated
  · rw [List.filterMap_map] at rates
    exact rates
  · rw [List.map_map] at errors
    exact errors

def shortDelays : Sync.Timings := ⟨2, 3, 1, 2, 10⟩

private theorem exists_sentence_of_dated : ∃ sentence : Nmea.Sentence,
    bytesOf (Script.devices.read (dated today)).1 = sentence.bytes ∧ sentence.IsLine ∧
      sentence.utc?.isSome = true := by
  refine ⟨⟨bytesOf (Script.devices.read (dated today)).1,
    by decide +kernel, by decide +kernel⟩,
    rfl, ⟨⟨(bytesOf (Script.devices.read (dated today)).1).dropLast, ?_, ?_⟩, ?_⟩, ?_⟩
  · decide +kernel
  · decide +kernel
  · decide +kernel
  · decide +kernel

/-- The poll that completes a synchronisation with short delays, and the polls before
it. -/
theorem synchronises_of_shortDelays :
    ∃ (tick : Tick Script.devices) (earlier : List (Tick Script.devices)),
      Run Script.devices shortDelays (tick :: earlier) tick.after ∧
        SteadyFrom 7 (tick :: earlier) ∧
        7 + shortDelays.completion + powerTimeout < unsignedLimit ∧
        7 + shortDelays.completion + shortDelays.syncPeriod < unsignedLimit ∧
        earlier.length = shortDelays.completion ∧
        (tick.before.sync.phase ≠ .waitForNextSync ∧
          ∀ wallTime world, ∃ next : Tick Script.devices, next.now = 7 + earlier.length ∧
            next.wallTime = wallTime ∧ next.before = tick.before ∧ next.world = world) ∧
        tick.after.sync.phase = .waitForNextSync ∧
        SynchroniseOnce (requestsOf (tick :: earlier)) := by
  let worlds := List.replicate (shortDelays.completion + 1) (dated today)
  have replays :
      ((replay? Script.devices shortDelays (eachSecond 7 worlds)).map fun run =>
      isSteady run.1) = some true := by
    decide +kernel
  rcases Option.map_eq_some_iff.mp replays with ⟨⟨replayed, final⟩, replayed, steadily⟩
  rcases exists_run_of_replay? replayed with ⟨past, station, run, polled, rfl, rfl⟩
  have telling : ∀ world ∈ worlds, ∃ sentence : Nmea.Sentence,
      bytesOf (Script.devices.read world).1 = sentence.bytes ∧ sentence.IsLine ∧
        sentence.utc?.isSome = true := by
    intro world member
    rw [List.eq_of_mem_replicate member]
    exact exists_sentence_of_dated
  have steady := steadyFrom_of_isSteady polled telling steadily
  have length : past.length = shortDelays.completion + 1 := by
    rw [← List.length_map Tick.poll, polled, length_eachSecond, List.length_replicate]
  have silenceRoom : 7 + shortDelays.completion + powerTimeout < unsignedLimit := by
    decide
  have periodRoom :
      7 + shortDelays.completion + shortDelays.syncPeriod < unsignedLimit := by
    decide
  cases past with
  | nil => cases length
  | cons tick earlier =>
      rcases run.of_cons with ⟨before, rfl⟩
      have long : earlier.length = shortDelays.completion := Nat.succ.inj length
      have completes := (run.synchronises steady silenceRoom periodRoom).2 length
      have goesOn := (before.synchronises steady.of_cons silenceRoom periodRoom).1 long.le
      exact ⟨tick, earlier, run, steady, silenceRoom, periodRoom, long, goesOn, completes⟩

end Station

end ClockDiscipline
