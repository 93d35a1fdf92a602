import ClockDiscipline.Proofs.Sync.Synchronisation

/-!
The schedule of a first synchronisation. With a step each second, a receiver that is never
silent and measurements that agree, every stage is entered after a number of steps that
the delays alone decide.
-/

namespace ClockDiscipline.Sync

/-- The number of the step that completes a first synchronisation, where the first step is
number zero. -/
def Timings.completion (timings : Timings) : Nat :=
  4 * timings.initStepDelay + timings.firstFixSettle + timings.timeSetSettle +
    5 * timings.driftWindow + 22

/-! ## Stages -/

/-- The stages of a first synchronisation. Those of the measurements are told apart by the
rates or errors that have been learnt before. -/
inductive Stage where
  | waking
  | init1
  | init2
  | init3
  | firstFix
  | settle1
  | setSystemTime
  | settle2
  | window (number : Nat)
  | outcome (number : Nat)
  | error (number : Nat)
  | synchronised
  deriving DecidableEq, Repr

namespace Stage

def phase : Stage → Phase
  | waking => .waitForPower
  | init1 => .init1
  | init2 => .init2
  | init3 => .init3
  | firstFix => .waitForFirstFix
  | settle1 => .settle1
  | setSystemTime => .setSystemTime
  | settle2 => .settle2
  | window _ => .measureDrift
  | outcome _ => .measureDrift
  | error _ => .measureError
  | synchronised => .waitForNextSync

def next : Stage → Stage
  | waking => init1
  | init1 => init2
  | init2 => init3
  | init3 => firstFix
  | firstFix => settle1
  | settle1 => setSystemTime
  | setSystemTime => settle2
  | settle2 => window 0
  | window number => outcome number
  | outcome number => if number + 1 = agreementSize then error 0 else window (number + 1)
  | error number =>
      if number + 1 = agreementSize then synchronised else error (number + 1)
  | synchronised => synchronised

section Next

variable {number : Nat}

theorem next_outcome_fifth (fifth : number + 1 = agreementSize) :
    (outcome number).next = error 0 := if_pos fifth

theorem next_outcome (more : number + 1 ≠ agreementSize) :
    (outcome number).next = window (number + 1) := if_neg more

theorem next_error_fifth (fifth : number + 1 = agreementSize) :
    (error number).next = synchronised := if_pos fifth

theorem next_error (more : number + 1 ≠ agreementSize) :
    (error number).next = error (number + 1) := if_neg more

end Next

def delay? (timings : Timings) : Stage → Option Nat
  | init1 => some timings.initStepDelay
  | init2 => some timings.initStepDelay
  | init3 => some timings.initStepDelay
  | firstFix => some timings.initStepDelay
  | settle1 => some timings.firstFixSettle
  | settle2 => some timings.timeSetSettle
  | window _ => some timings.driftWindow
  | synchronised => some timings.syncPeriod
  | _ => none

def awaits : Stage → Bool
  | outcome _ => true
  | _ => false

def ratesLearnt : Stage → Nat
  | window number => number
  | outcome number => number
  | error _ => agreementSize
  | synchronised => agreementSize
  | _ => 0

def errorsLearnt : Stage → Nat
  | error number => number
  | synchronised => agreementSize
  | _ => 0

def Occurs : Stage → Prop
  | window number => number < agreementSize
  | outcome number => number < agreementSize
  | error number => number < agreementSize
  | _ => True

/-- What the step that ends a stage asks for. The rate of the clock and the published
error depend on what was learnt. -/
def effects (adjustment : Adjustment) (wallTime : Int) (clockError : Float) :
    Stage → List Effect
  | waking => [.flushQueues, .sendInit 0]
  | init1 => [.sendInit 1]
  | init2 => [.sendInit 2]
  | init3 => [.sendInit 3, .clearFix]
  | firstFix => []
  | settle1 => [.requestTimeSet]
  | setSystemTime => []
  | settle2 => [.abortDrift, .startDrift]
  | window _ => [.finishDrift]
  | outcome number => if number + 1 = agreementSize then [.startError] else [.startDrift]
  | error number =>
      if number + 1 = agreementSize then
        [.applyCompensation adjustment, .startPseudoPulse, .persistHardwareClock,
          .publishStatus wallTime clockError]
      else [.startError]
  | synchronised => []

/-- The steps that have been taken when a stage is entered. -/
def entry (timings : Timings) : Stage → Nat
  | waking => 0
  | init1 => 1
  | init2 => timings.initStepDelay + 2
  | init3 => 2 * timings.initStepDelay + 3
  | firstFix => 3 * timings.initStepDelay + 4
  | settle1 => 4 * timings.initStepDelay + 5
  | setSystemTime => 4 * timings.initStepDelay + timings.firstFixSettle + 6
  | settle2 => 4 * timings.initStepDelay + timings.firstFixSettle + 7
  | window number =>
      4 * timings.initStepDelay + timings.firstFixSettle + timings.timeSetSettle +
      number * (timings.driftWindow + 2) + 8
  | outcome number =>
      4 * timings.initStepDelay + timings.firstFixSettle + timings.timeSetSettle +
      number * (timings.driftWindow + 2) + timings.driftWindow + 9
  | error number =>
      4 * timings.initStepDelay + timings.firstFixSettle + timings.timeSetSettle +
      5 * timings.driftWindow + number + 18
  | synchronised =>
      4 * timings.initStepDelay + timings.firstFixSettle + timings.timeSetSettle +
      5 * timings.driftWindow + 23

def last (timings : Timings) (stage : Stage) : Nat :=
  stage.entry timings + (stage.delay? timings).getD 0

theorem of_entry_lt_last {timings : Timings} {stage : Stage}
    (longer : stage.entry timings < stage.last timings) :
    stage.awaits = false ∧ stage ≠ setSystemTime ∧ stage.phase ≠ .measureError := by
  cases stage <;> simp_all [last, delay?, awaits, phase]

private theorem entry_next (timings : Timings) {stage : Stage}
    (goesOn : stage ≠ synchronised) :
    stage.next.entry timings = stage.last timings + 1 := by
  cases stage with
  | synchronised => exact absurd rfl goesOn
  | outcome number =>
      by_cases fifth : number + 1 = agreementSize
      · have four : number = 4 := Nat.succ.inj fifth
        simp only [next, four, entry, last, delay?]
        simp
        omega
      · simp only [next, fifth, if_false, entry, last, delay?, Nat.succ_mul]
        simp
        omega
  | error number =>
      by_cases fifth : number + 1 = agreementSize
      · have four : number = 4 := Nat.succ.inj fifth
        simp [next, four, entry, last, delay?]
      · simp only [next, fifth, if_false, entry, last, delay?]
        simp
        omega
  | _ =>
      simp [next, entry, last, delay?]
      try omega

private theorem occurs_next {stage : Stage} (occurs : stage.Occurs) :
    stage.next.Occurs := by
  cases stage with
  | settle2 => exact Nat.zero_lt_succ _
  | window number => exact occurs
  | outcome number =>
      have listed : number < agreementSize := occurs
      by_cases fifth : number + 1 = agreementSize
      · simp [next, fifth, Occurs]
      · have more : number + 1 < agreementSize := by omega
        simpa [next, fifth, Occurs] using more
  | error number =>
      have listed : number < agreementSize := occurs
      by_cases fifth : number + 1 = agreementSize
      · simp [next, fifth, Occurs]
      · have more : number + 1 < agreementSize := by omega
        simpa [next, fifth, Occurs] using more
  | _ => trivial

theorem phase_of_errorsLearnt {stage : Stage}
    (fourth : stage.errorsLearnt + 1 = agreementSize) : stage.phase = .measureError := by
  cases stage <;> simp_all [errorsLearnt, agreementSize, phase]

theorem phase_ne_waitForNextSync {stage : Stage} (goesOn : stage ≠ synchronised) :
    stage.phase ≠ .waitForNextSync := by
  cases stage <;> simp_all [phase]

theorem last_le_completion (timings : Timings) {stage : Stage} (occurs : stage.Occurs)
    (goesOn : stage ≠ synchronised) : stage.last timings ≤ timings.completion := by
  cases stage with
  | synchronised => exact absurd rfl goesOn
  | window number =>
      have four : number ≤ 4 := Nat.le_of_lt_succ occurs
      have windows : number * (timings.driftWindow + 2) ≤ 4 * (timings.driftWindow + 2) :=
        Nat.mul_le_mul_right _ four
      simp only [last, entry, delay?, Timings.completion, Option.getD_some]
      omega
  | outcome number =>
      have four : number ≤ 4 := Nat.le_of_lt_succ occurs
      have windows : number * (timings.driftWindow + 2) ≤ 4 * (timings.driftWindow + 2) :=
        Nat.mul_le_mul_right _ four
      simp only [last, entry, delay?, Timings.completion, Option.getD_none]
      omega
  | error number =>
      have four : number ≤ 4 := Nat.le_of_lt_succ occurs
      simp only [last, entry, delay?, Timings.completion, Option.getD_none]
      omega
  | _ =>
      simp [last, entry, delay?, Timings.completion]
      try omega

end Stage

/-! ## What a stage remembers -/

namespace Transition

variable {before after : State} {inputs : Inputs} {effects : List Effect}

private theorem consumedRate_of_unready (unready : before.isReady inputs = false) :
    consumedRate ⟨before, inputs, effects, after⟩ = none := by
  simp only [consumedRate, Option.bind_eq_none_iff, consumedDrift_eq_some_iff]
  rintro result ⟨⟨-, phase, awaiting⟩, told⟩
  simp [State.isReady, phase, awaiting, told] at unready

private theorem consumedError_of_unready (unready : before.isReady inputs = false) :
    consumedError ⟨before, inputs, effects, after⟩ = none := by
  rw [Option.eq_none_iff_forall_ne_some]
  rintro error consumed
  rcases consumedError_eq_some_iff.mp consumed with ⟨⟨-, phase⟩, told⟩
  dsimp only at phase told
  simp [State.isReady, phase, told] at unready

end Transition

/-- A rate has come. If it is the fifth, the five agree. -/
def RateAgrees (past : List Transition) (inputs : Inputs) : Prop :=
  ∃ rate, inputs.driftResult = some (.ok rate) ∧
    ((rates past).length + 1 = agreementSize →
      Agreement.Agree Agreement.driftTolerance (rates past ++ [rate]))

/-- If a fifth error has come, the five agree. -/
def ErrorAgrees (past : List Transition) (inputs : Inputs) : Prop :=
  ∀ error, inputs.errorResult = some error → (errors past).length + 1 = agreementSize →
    Agreement.Agree Agreement.errorTolerance (errors past ++ [error])

namespace Stage

/-- A first synchronisation whose steps begin at the instant `start` has come to `stage`
by way of `past`. -/
structure Holds (timings : Timings) (start : Nat) (past : List Transition) (stage : Stage)
    (state : State) : Prop where
  occurs : stage.Occurs
  entered : stage.entry timings ≤ past.length
  lasts : past.length ≤ stage.last timings
  sameTimings : state.timings = timings
  phase : state.phase = stage.phase
  awaiting : state.awaitingDriftResult = stage.awaits
  systemTimeSet : state.systemTimeSet = stage.phase.followsTimeSetting
  pseudoPulse : state.pseudoPulseRunning = decide (stage = synchronised)
  rates : (Sync.rates past).length = stage.ratesLearnt
  errors : (Sync.errors past).length = stage.errorsLearnt
  driftAgreement : state.driftAgreement = Agreement.drift.given (Sync.rates past)
  errorAgreement : state.errorAgreement = Agreement.error.given (Sync.errors past)
  deadline : ∀ delay, stage.delay? timings = some delay →
    state.deadline + 1 = start + stage.last timings
  bounded : state.deadline ≤ start + stage.last timings

theorem holds_initial (timings : Timings) (start : Nat) :
    waking.Holds timings start [] (.initial timings) := by
  refine ⟨trivial, Nat.le_refl _, Nat.le_refl _, rfl, rfl, rfl, rfl, rfl, rfl, rfl,
    rfl, rfl, fun delay timed => ?_, Nat.zero_le _⟩
  cases timed

namespace Holds

variable {timings : Timings} {start : Nat} {past : List Transition} {stage : Stage}
  {before after : State} {inputs : Inputs} {effects : List Effect}

private theorem isDue_iff (holds : stage.Holds timings start past before)
    (now : inputs.now = start + past.length) {delay : Nat}
    (timed : stage.delay? timings = some delay) :
    before.isDue inputs.now = true ↔ past.length = stage.last timings := by
  have deadline := holds.deadline delay timed
  have lasts := holds.lasts
  rw [State.isDue, decide_eq_true_iff]
  omega

private theorem isReady_eq_false (holds : stage.Holds timings start past before)
    (now : inputs.now = start + past.length) (early : past.length < stage.last timings) :
    before.isReady inputs = false := by
  have entered := holds.entered
  have phase := holds.phase
  have awaiting := holds.awaiting
  have undue {delay : Nat} (timed : stage.delay? timings = some delay) :
      before.isDue inputs.now = false := by
    rw [Bool.eq_false_iff, Ne, holds.isDue_iff now timed]
    omega
  cases stage with
  | waking => exact absurd early (Nat.not_lt.mpr entered)
  | setSystemTime => exact absurd early (Nat.not_lt.mpr entered)
  | outcome => exact absurd early (Nat.not_lt.mpr entered)
  | error => exact absurd early (Nat.not_lt.mpr entered)
  | _ => simp [State.isReady, phase, Stage.phase, awaiting, awaits, undue rfl]

theorem isReady (holds : stage.Holds timings start past before)
    (ended : past.length = stage.last timings) (now : inputs.now = start + past.length)
    (hasFix : inputs.hasFix = true)
    (timeSet : stage = setSystemTime → inputs.timeSetDone = true)
    (rated : stage.awaits = true → inputs.driftResult.isSome = true)
    (measured : stage.phase = .measureError → inputs.errorResult.isSome = true) :
    before.isReady inputs = true := by
  have phase := holds.phase
  have awaiting := holds.awaiting
  have due {delay : Nat} (timed : stage.delay? timings = some delay) :=
    (holds.isDue_iff now timed).mpr ended
  cases stage with
  | waking => simp [State.isReady, phase, Stage.phase]
  | firstFix => simp [State.isReady, phase, Stage.phase, due rfl, hasFix]
  | setSystemTime => simp [State.isReady, phase, Stage.phase, timeSet rfl]
  | outcome => simp [State.isReady, phase, Stage.phase, awaiting, awaits, rated rfl]
  | error => simp [State.isReady, phase, Stage.phase, measured rfl]
  | _ => simp [State.isReady, phase, Stage.phase, awaiting, awaits, due rfl]

theorem stay (holds : stage.Holds timings start past before)
    (rule : Rule before inputs effects after) (now : inputs.now = start + past.length)
    (powered : inputs.receiverPower = true) (early : past.length < stage.last timings) :
    effects = [] ∧
      stage.Holds timings start (⟨before, inputs, effects, after⟩ :: past) after := by
  have unready := holds.isReady_eq_false now early
  rcases rule.unique (.wait powered unready) with ⟨rfl, rfl⟩
  have rates : Transition.consumedRate ⟨after, inputs, [], after⟩ = none :=
    Transition.consumedRate_of_unready unready
  have errors : Transition.consumedError ⟨after, inputs, [], after⟩ = none :=
    Transition.consumedError_of_unready unready
  refine ⟨rfl, { holds with
    entered := Nat.le_succ_of_le holds.entered
    lasts := early
    rates := ?_
    errors := ?_
    driftAgreement := ?_
    errorAgreement := ?_ }⟩
  all_goals simp only [rates_cons, errors_cons, rates, errors, Option.toList_none,
    List.append_nil]
  · exact holds.rates
  · exact holds.errors
  · exact holds.driftAgreement
  · exact holds.errorAgreement

/-- After the last step of a stage the next stage holds, if the step sets what that stage
remembers and takes in what it has learnt. -/
private theorem moveOn (holds : stage.Holds timings start past before)
    (effects : List Effect)
    (after : State) (ended : past.length = stage.last timings)
    (goesOn : stage ≠ synchronised) (now : inputs.now = start + past.length)
    (sameTimings : after.timings = before.timings)
    (phase : after.phase = stage.next.phase)
    (awaiting : after.awaitingDriftResult = stage.next.awaits)
    (systemTimeSet : after.systemTimeSet = stage.next.phase.followsTimeSetting)
    (pseudoPulse : after.pseudoPulseRunning = decide (stage.next = synchronised))
    (deadline : after.deadline =
      ((stage.next.delay? timings).map (inputs.now + ·)).getD before.deadline)
    {rates errors : List Float}
    (consumesRates : (Transition.consumedRate ⟨before, inputs, effects, after⟩).toList =
      rates)
    (consumesErrors : (Transition.consumedError ⟨before, inputs, effects, after⟩).toList =
      errors)
    (moreRates : stage.ratesLearnt + rates.length = stage.next.ratesLearnt)
    (moreErrors : stage.errorsLearnt + errors.length = stage.next.errorsLearnt)
    (driftAgreement : after.driftAgreement =
      rates.foldl Agreement.insert before.driftAgreement)
    (errorAgreement : after.errorAgreement =
      errors.foldl Agreement.insert before.errorAgreement) :
    stage.next.Holds timings start (⟨before, inputs, effects, after⟩ :: past) after := by
  have enters := entry_next timings goesOn
  have lasts : stage.next.entry timings ≤ stage.next.last timings := Nat.le_add_right _ _
  have bounded := holds.bounded
  refine ⟨occurs_next holds.occurs, ?_, ?_, sameTimings.trans holds.sameTimings, phase,
    awaiting, systemTimeSet, pseudoPulse, ?_, ?_, ?_, ?_, ?_, ?_⟩
  · rw [List.length_cons, ended, enters]
  · rw [List.length_cons, ended, ← enters]
    exact lasts
  · rw [rates_cons, consumesRates, List.length_append, holds.rates, moreRates]
  · rw [errors_cons, consumesErrors, List.length_append, holds.errors, moreErrors]
  · rw [rates_cons, consumesRates, driftAgreement, holds.driftAgreement, Agreement.given,
      Agreement.given, List.foldl_append]
  · rw [errors_cons, consumesErrors, errorAgreement, holds.errorAgreement,
      Agreement.given, Agreement.given, List.foldl_append]
  · intro delay timed
    have ends : stage.next.last timings = stage.next.entry timings + delay := by
      simp [Stage.last, timed]
    rw [deadline, timed, Option.map_some, Option.getD_some]
    omega
  · rw [deadline]
    cases timed : stage.next.delay? timings with
    | none =>
        simp only [Option.map_none, Option.getD_none]
        omega
    | some delay =>
        have ends : stage.next.last timings = stage.next.entry timings + delay := by
          simp [Stage.last, timed]
        simp only [Option.map_some, Option.getD_some]
        omega

private theorem moveOn_unlearnt (holds : stage.Holds timings start past before)
    (effects : List Effect)
    (after : State) (ended : past.length = stage.last timings)
    (goesOn : stage ≠ synchronised) (now : inputs.now = start + past.length)
    (idle : before.awaitingDriftResult = false) (elsewhere : before.phase ≠ .measureError)
    (sameTimings : after.timings = before.timings)
    (phase : after.phase = stage.next.phase)
    (awaiting : after.awaitingDriftResult = stage.next.awaits)
    (systemTimeSet : after.systemTimeSet = stage.next.phase.followsTimeSetting)
    (pseudoPulse : after.pseudoPulseRunning = decide (stage.next = synchronised))
    (deadline : after.deadline =
      ((stage.next.delay? timings).map (inputs.now + ·)).getD before.deadline)
    (sameRates : stage.ratesLearnt = stage.next.ratesLearnt)
    (sameErrors : stage.errorsLearnt = stage.next.errorsLearnt)
    (driftAgreement : after.driftAgreement = before.driftAgreement)
    (errorAgreement : after.errorAgreement = before.errorAgreement) :
    stage.next.Holds timings start (⟨before, inputs, effects, after⟩ :: past) after := by
  have noRate : (Transition.consumedRate ⟨before, inputs, effects, after⟩).toList =
      [] := by
    simp [Transition.consumedRate, Transition.consumedDrift, idle]
  have noError : (Transition.consumedError ⟨before, inputs, effects, after⟩).toList =
      [] := by
    simp [Transition.consumedError, elsewhere]
  exact holds.moveOn effects after ended goesOn now sameTimings phase awaiting
    systemTimeSet
    pseudoPulse deadline noRate noError sameRates sameErrors driftAgreement errorAgreement

private theorem leave_outcome {number : Nat}
    (holds : (outcome number).Holds timings start past before)
    (rule : Rule before inputs effects after)
    (ended : past.length = (outcome number).last timings)
    (now : inputs.now = start + past.length) (powered : inputs.receiverPower = true)
    (rateAgrees : RateAgrees past inputs) :
    (outcome number).next.Holds timings start
      (⟨before, inputs, effects, after⟩ :: past) after ∧
      ∃ adjustment clockError,
        effects = (outcome number).effects adjustment inputs.wallTime clockError := by
  obtain rfl : before.timings = timings := holds.sameTimings
  have phase : before.phase = .measureDrift := holds.phase
  have awaiting : before.awaitingDriftResult = true := holds.awaiting
  have moves := holds.moveOn effects after ended Stage.noConfusion now
  rcases rateAgrees with ⟨rate, told, fifthAgrees⟩
  have consumed : (Transition.consumedRate ⟨before, inputs, effects, after⟩).toList =
      [rate] := by
    simp [Transition.consumedRate, Transition.consumedDrift, powered, phase,
      awaiting, told, Except.toOption]
  have noError : (Transition.consumedError ⟨before, inputs, effects, after⟩).toList =
      [] := by
    simp [Transition.consumedError, phase]
  have learnt : (Sync.rates past).length = number := holds.rates
  have accepted : (before.driftAgreement.consider rate).1 = true ↔
      Agreement.Agree Agreement.driftTolerance (Sync.rates past ++ [rate]) := by
    rw [holds.driftAgreement]
    exact Agreement.consider_given_iff _ _ _
  by_cases fifth : number + 1 = agreementSize
  · have agree := accepted.mpr (fifthAgrees (by rw [learnt, fifth]))
    rcases rule.unique (.agree powered phase awaiting rate told agree) with ⟨rfl, rfl⟩
    have restarted : before.errorAgreement.restart = before.errorAgreement := by
      rw [holds.errorAgreement, List.eq_nil_of_length_eq_zero holds.errors]
      rfl
    rw [next_outcome_fifth fifth] at moves ⊢
    exact ⟨moves rfl rfl rfl holds.systemTimeSet holds.pseudoPulse rfl consumed noError
      fifth rfl
      rfl restarted, .nominal, 0, (if_pos fifth).symm⟩
  · have few : (before.driftAgreement.consider rate).1 = false := by
      rw [Bool.eq_false_iff, Ne, accepted]
      intro agree
      have enough := agree.1
      have listed : number < agreementSize := holds.occurs
      rw [List.length_append, learnt, List.length_singleton] at enough
      omega
    rcases rule.unique (.disagree powered phase awaiting rate told few) with ⟨rfl, rfl⟩
    rw [next_outcome fifth] at moves ⊢
    exact ⟨moves rfl phase rfl holds.systemTimeSet holds.pseudoPulse rfl consumed noError
      rfl rfl
      rfl rfl, .nominal, 0, (if_neg fifth).symm⟩

private theorem leave_error {number : Nat}
    (holds : (error number).Holds timings start past before)
    (rule : Rule before inputs effects after)
    (ended : past.length = (error number).last timings)
    (now : inputs.now = start + past.length) (powered : inputs.receiverPower = true)
    (ready : before.isReady inputs = true) (errorAgrees : ErrorAgrees past inputs) :
    (error number).next.Holds timings start
      (⟨before, inputs, effects, after⟩ :: past) after ∧
      ∃ adjustment clockError,
        effects = (error number).effects adjustment inputs.wallTime clockError := by
  obtain rfl : before.timings = timings := holds.sameTimings
  have phase : before.phase = .measureError := holds.phase
  have moves := holds.moveOn effects after ended Stage.noConfusion now
  have measured : inputs.errorResult.isSome = true := by
    simpa [State.isReady, phase] using ready
  rcases Option.isSome_iff_exists.mp measured with ⟨clockError, told⟩
  have consumed : (Transition.consumedError ⟨before, inputs, effects, after⟩).toList =
      [clockError] := by
    simp [Transition.consumedError, powered, phase, told]
  have noRate : (Transition.consumedRate ⟨before, inputs, effects, after⟩).toList =
      [] := by
    simp [Transition.consumedRate, Transition.consumedDrift, phase]
  have learnt : (Sync.errors past).length = number := holds.errors
  have accepted : (before.errorAgreement.consider clockError).1 = true ↔
      Agreement.Agree Agreement.errorTolerance (Sync.errors past ++ [clockError]) := by
    rw [holds.errorAgreement]
    exact Agreement.consider_given_iff _ _ _
  by_cases fifth : number + 1 = agreementSize
  · have agree := accepted.mpr (errorAgrees clockError told (by rw [learnt, fifth]))
    rcases rule.unique (.synchronise powered phase clockError told agree) with ⟨rfl, rfl⟩
    have unstarted : before.pseudoPulseRunning = false := holds.pseudoPulse
    rw [next_error_fifth fifth] at moves ⊢
    have asks : (error number).effects
        (.ofRate
          (before.compensated (before.errorAgreement.insert clockError).mean).total)
        inputs.wallTime (before.errorAgreement.insert clockError).mean =
        before.synchronisationEffects inputs.wallTime
          (before.errorAgreement.insert clockError).mean := by
      simp [Stage.effects, fifth, State.synchronisationEffects, unstarted]
    exact ⟨moves rfl rfl holds.awaiting holds.systemTimeSet rfl rfl noRate consumed rfl
      fifth rfl
      rfl, _, _, asks.symm⟩
  · have few : (before.errorAgreement.consider clockError).1 = false := by
      rw [Bool.eq_false_iff, Ne, accepted]
      intro agree
      have enough := agree.1
      have listed : number < agreementSize := holds.occurs
      rw [List.length_append, learnt, List.length_singleton] at enough
      omega
    rcases rule.unique (.measureAgain powered phase clockError told few) with ⟨rfl, rfl⟩
    rw [next_error fifth] at moves ⊢
    exact ⟨moves rfl phase holds.awaiting holds.systemTimeSet holds.pseudoPulse rfl noRate
      consumed
      rfl rfl rfl rfl, .nominal, 0, (if_neg fifth).symm⟩

/-- A step that ends a stage asks for what the stage says and leads to the next one. -/
theorem leave (holds : stage.Holds timings start past before)
    (rule : Rule before inputs effects after) (ended : past.length = stage.last timings)
    (goesOn : stage ≠ synchronised) (now : inputs.now = start + past.length)
    (powered : inputs.receiverPower = true) (ready : before.isReady inputs = true)
    (rateAgrees : stage.awaits = true → RateAgrees past inputs)
    (errorAgrees : ErrorAgrees past inputs) :
    stage.next.Holds timings start (⟨before, inputs, effects, after⟩ :: past) after ∧
      ∃ adjustment clockError,
        effects = stage.effects adjustment inputs.wallTime clockError := by
  obtain rfl : before.timings = timings := holds.sameTimings
  have phase := holds.phase
  have set := holds.systemTimeSet
  have awaiting := holds.awaiting
  have pulse := holds.pseudoPulse
  have moves := holds.moveOn_unlearnt effects after ended goesOn now
  have due {delay : Nat} (timed : stage.delay? before.timings = some delay) :=
    (holds.isDue_iff now timed).mpr ended
  cases stage with
  | synchronised => exact absurd rfl goesOn
  | waking =>
      have elsewhere : before.phase ≠ .measureError := by simp [phase, Stage.phase]
      rcases rule.unique (.wake powered phase) with ⟨rfl, rfl⟩
      exact ⟨moves awaiting elsewhere rfl rfl awaiting set pulse rfl rfl rfl rfl rfl,
        .nominal, 0, rfl⟩
  | init1 =>
      have elsewhere : before.phase ≠ .measureError := by simp [phase, Stage.phase]
      rcases rule.unique (.prepareFirst powered phase (due rfl)) with ⟨rfl, rfl⟩
      exact ⟨moves awaiting elsewhere rfl rfl awaiting set pulse rfl rfl rfl rfl rfl,
        .nominal, 0, rfl⟩
  | init2 =>
      have elsewhere : before.phase ≠ .measureError := by simp [phase, Stage.phase]
      rcases rule.unique (.prepareSecond powered phase (due rfl)) with ⟨rfl, rfl⟩
      exact ⟨moves awaiting elsewhere rfl rfl awaiting set pulse rfl rfl rfl rfl rfl,
        .nominal, 0, rfl⟩
  | init3 =>
      have elsewhere : before.phase ≠ .measureError := by simp [phase, Stage.phase]
      rcases rule.unique (.prepareThird powered phase (due rfl)) with ⟨rfl, rfl⟩
      exact ⟨moves awaiting elsewhere rfl rfl awaiting set pulse rfl rfl rfl rfl rfl,
        .nominal, 0, rfl⟩
  | firstFix =>
      have hasFix : inputs.hasFix = true := by
        simpa [State.isReady, phase, Stage.phase, due rfl] using ready
      have elsewhere : before.phase ≠ .measureError := by simp [phase, Stage.phase]
      rcases rule.unique (.acquireFix powered phase (due rfl) hasFix) with ⟨rfl, rfl⟩
      exact ⟨moves awaiting elsewhere rfl rfl awaiting set pulse rfl rfl rfl rfl rfl,
        .nominal, 0, rfl⟩
  | settle1 =>
      have elsewhere : before.phase ≠ .measureError := by simp [phase, Stage.phase]
      rcases rule.unique (.requestTime powered phase (due rfl) set) with ⟨rfl, rfl⟩
      exact ⟨moves awaiting elsewhere rfl rfl awaiting rfl pulse rfl rfl rfl rfl rfl,
        .nominal, 0, rfl⟩
  | setSystemTime =>
      have done : inputs.timeSetDone = true := by
        simpa [State.isReady, phase, Stage.phase] using ready
      have elsewhere : before.phase ≠ .measureError := by simp [phase, Stage.phase]
      rcases rule.unique (.timeSet powered phase done) with ⟨rfl, rfl⟩
      exact ⟨moves awaiting elsewhere rfl rfl awaiting set pulse rfl rfl rfl rfl rfl,
        .nominal, 0, rfl⟩
  | settle2 =>
      have elsewhere : before.phase ≠ .measureError := by simp [phase, Stage.phase]
      rcases rule.unique (.openFirstWindow powered (.inr phase) (due rfl)) with ⟨rfl, rfl⟩
      have restarted : before.driftAgreement.restart = before.driftAgreement := by
        rw [holds.driftAgreement, List.eq_nil_of_length_eq_zero holds.rates]
        rfl
      exact ⟨moves awaiting elsewhere rfl rfl rfl set pulse rfl rfl rfl restarted rfl,
        .nominal, 0, rfl⟩
  | window number =>
      have elsewhere : before.phase ≠ .measureError := by simp [phase, Stage.phase]
      rcases rule.unique (.closeWindow powered phase awaiting (due rfl)) with ⟨rfl, rfl⟩
      exact ⟨moves awaiting elsewhere rfl phase rfl set pulse rfl rfl rfl rfl rfl,
        .nominal, 0, rfl⟩
  | outcome number => exact holds.leave_outcome rule ended now powered (rateAgrees rfl)
  | error number => exact holds.leave_error rule ended now powered ready errorAgrees

theorem deadline_le (holds : stage.Holds timings start past before)
    (rule : Rule before inputs effects after) (goesOn : stage ≠ synchronised)
    (now : inputs.now = start + past.length)
    (rateAgrees : stage.awaits = true → RateAgrees past inputs) :
    after.deadline ≤ start + timings.completion + timings.syncPeriod := by
  have kept (same : after.deadline = before.deadline) :
      after.deadline ≤ start + timings.completion + timings.syncPeriod := by
    have soon := last_le_completion timings holds.occurs goesOn
    have bounded := holds.bounded
    omega
  cases powered : inputs.receiverPower with
  | false =>
      rcases rule.unique (.losePower powered) with ⟨-, rfl⟩
      exact kept rfl
  | true =>
      cases ready : before.isReady inputs with
      | false =>
          rcases rule.unique (.wait powered ready) with ⟨-, rfl⟩
          exact kept rfl
      | true =>
          have ended : past.length = stage.last timings := by
            by_contra sooner
            have lasts := holds.lasts
            have unready := holds.isReady_eq_false now (by omega)
            rw [ready] at unready
            cases unready
          by_cases errorAgrees : ErrorAgrees past inputs
          · have next :=
              (holds.leave rule ended goesOn now powered ready rateAgrees errorAgrees).1
            by_cases done : stage.next = synchronised
            · have deadline := next.deadline timings.syncPeriod (by rw [done]; rfl)
              have period : synchronised.last timings = timings.completion + 1 +
                  timings.syncPeriod := rfl
              rw [done] at deadline
              omega
            · have soon := last_le_completion timings next.occurs done
              have bounded := next.bounded
              omega
          · -- A fifth error that does not agree leaves the deadline alone.
            unfold ErrorAgrees at errorAgrees
            push Not at errorAgrees
            rcases errorAgrees with ⟨clockError, told, fifth, differs⟩
            rw [holds.errors] at fifth
            have phase := holds.phase.trans (phase_of_errorsLearnt fifth)
            have refused : (before.errorAgreement.consider clockError).1 = false := by
              rw [Bool.eq_false_iff, Ne, holds.errorAgreement,
                Agreement.consider_given_iff]
              exact differs
            rcases rule.unique (.measureAgain powered phase clockError told refused) with
              ⟨-, rfl⟩
            exact kept rfl

end Holds

end Stage

end ClockDiscipline.Sync
