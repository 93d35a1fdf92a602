import ClockDiscipline.Nmea.Command
import ClockDiscipline.Sync.Step

/-!
The rules of synchronisation. Each rule says when it applies, what it asks for and which
state follows. Every step follows one of them, so what all rules keep is kept by every
step.
-/

namespace ClockDiscipline.Sync

def Timings.delays (timings : Timings) : List Nat :=
  [timings.initStepDelay, timings.firstFixSettle, timings.timeSetSettle,
    timings.driftWindow, timings.syncPeriod]

namespace State

/-- What a powered step waits for in each phase. -/
def isReady (state : State) (inputs : Inputs) : Bool :=
  match state.phase with
  | .waitForPower => true
  | .init1 => state.isDue inputs.now
  | .init2 => state.isDue inputs.now
  | .init3 => state.isDue inputs.now
  | .waitForFirstFix => state.isDue inputs.now && inputs.hasFix
  | .settle1 => state.isDue inputs.now
  | .setSystemTime => inputs.timeSetDone
  | .settle2 => state.isDue inputs.now
  | .measureDrift =>
      if state.awaitingDriftResult then inputs.driftResult.isSome
      else state.isDue inputs.now
  | .measureError => inputs.errorResult.isSome
  | .waitForNextSync => state.isDue inputs.now

def withWindow (state : State) (now : Nat) : State :=
  { state with
    awaitingDriftResult := false
    deadline := now + state.timings.driftWindow }

@[simp] theorem phase_withWindow (state : State) (now : Nat) :
    (state.withWindow now).phase = state.phase := rfl

@[simp] theorem awaitingDriftResult_withWindow (state : State) (now : Nat) :
    (state.withWindow now).awaitingDriftResult = false := rfl

@[simp] theorem systemTimeSet_withWindow (state : State) (now : Nat) :
    (state.withWindow now).systemTimeSet = state.systemTimeSet := rfl

def compensated (state : State) (error : Float) : Compensation Float :=
  { state.compensation with error := error }.update (Float.ofNat state.timings.syncPeriod)

def synchronisationEffects (state : State) (wallTime : Int) (error : Float) :
    List Effect :=
  [.applyCompensation (.ofRate (state.compensated error).total)] ++
    (if state.pseudoPulseRunning then [] else [.startPseudoPulse]) ++
    [.persistHardwareClock, .publishStatus wallTime error]

end State

/-- `Rule state inputs effects next`: in `state` a step that is told `inputs` may ask for
`effects` and lead to `next`. -/
inductive Rule (state : State) (inputs : Inputs) : List Effect → State → Prop
  | losePower (dark : inputs.receiverPower = false) :
      Rule state inputs [] { state with phase := .waitForPower }
  | wait (powered : inputs.receiverPower = true)
      (unready : state.isReady inputs = false) :
      Rule state inputs [] state
  | wake (powered : inputs.receiverPower = true) (phase : state.phase = .waitForPower) :
      Rule state inputs [.flushQueues, .sendInit 0]
        { state with
          phase := .init1
          deadline := inputs.now + state.timings.initStepDelay }
  | prepareFirst (powered : inputs.receiverPower = true) (phase : state.phase = .init1)
      (due : state.isDue inputs.now = true) :
      Rule state inputs [.sendInit 1]
        { state with
          phase := .init2
          deadline := inputs.now + state.timings.initStepDelay }
  | prepareSecond (powered : inputs.receiverPower = true) (phase : state.phase = .init2)
      (due : state.isDue inputs.now = true) :
      Rule state inputs [.sendInit 2]
        { state with
          phase := .init3
          deadline := inputs.now + state.timings.initStepDelay }
  | prepareThird (powered : inputs.receiverPower = true) (phase : state.phase = .init3)
      (due : state.isDue inputs.now = true) :
      Rule state inputs [.sendInit 3, .clearFix]
        { state with
          phase := .waitForFirstFix
          deadline := inputs.now + state.timings.initStepDelay }
  | acquireFix (powered : inputs.receiverPower = true)
      (phase : state.phase = .waitForFirstFix)
      (due : state.isDue inputs.now = true) (hasFix : inputs.hasFix = true) :
      Rule state inputs []
        { state with
          phase := .settle1
          deadline := inputs.now + state.timings.firstFixSettle }
  | requestTime (powered : inputs.receiverPower = true) (phase : state.phase = .settle1)
      (due : state.isDue inputs.now = true) (unset : state.systemTimeSet = false) :
      Rule state inputs [.requestTimeSet]
        { state with phase := .setSystemTime, systemTimeSet := true }
  | timeSet (powered : inputs.receiverPower = true) (phase : state.phase = .setSystemTime)
      (done : inputs.timeSetDone = true) :
      Rule state inputs []
        { state with
          phase := .settle2
          deadline := inputs.now + state.timings.timeSetSettle }
  | openFirstWindow (powered : inputs.receiverPower = true)
      (phase : state.phase = .settle1 ∧ state.systemTimeSet = true ∨
        state.phase = .settle2)
      (due : state.isDue inputs.now = true) :
      Rule state inputs [.abortDrift, .startDrift]
        { state.withWindow inputs.now with
          phase := .measureDrift
          driftAgreement := state.driftAgreement.restart }
  | closeWindow (powered : inputs.receiverPower = true)
      (phase : state.phase = .measureDrift)
      (opened : state.awaitingDriftResult = false) (due : state.isDue inputs.now = true) :
      Rule state inputs [.finishDrift] { state with awaitingDriftResult := true }
  | rejectWindow (powered : inputs.receiverPower = true)
      (phase : state.phase = .measureDrift)
      (awaiting : state.awaitingDriftResult = true) (rejection : Rejection)
      (result : inputs.driftResult = some (.error rejection)) :
      Rule state inputs [.startDrift] (state.withWindow inputs.now)
  | disagree (powered : inputs.receiverPower = true) (phase : state.phase = .measureDrift)
      (awaiting : state.awaitingDriftResult = true) (rate : Float)
      (result : inputs.driftResult = some (.ok rate))
      (refused : (state.driftAgreement.consider rate).1 = false) :
      Rule state inputs [.startDrift]
        { state.withWindow inputs.now with
          driftAgreement := state.driftAgreement.insert rate }
  | agree (powered : inputs.receiverPower = true) (phase : state.phase = .measureDrift)
      (awaiting : state.awaitingDriftResult = true) (rate : Float)
      (result : inputs.driftResult = some (.ok rate))
      (accepted : (state.driftAgreement.consider rate).1 = true) :
      Rule state inputs [.startError]
        { state with
          phase := .measureError
          awaitingDriftResult := false
          driftAgreement := state.driftAgreement.insert rate
          compensation :=
            { state.compensation with
              driftRate := (state.driftAgreement.insert rate).mean }
          errorAgreement := state.errorAgreement.restart }
  | measureAgain (powered : inputs.receiverPower = true)
      (phase : state.phase = .measureError)
      (error : Float) (result : inputs.errorResult = some error)
      (refused : (state.errorAgreement.consider error).1 = false) :
      Rule state inputs [.startError]
        { state with errorAgreement := state.errorAgreement.insert error }
  | synchronise (powered : inputs.receiverPower = true)
      (phase : state.phase = .measureError)
      (error : Float) (result : inputs.errorResult = some error)
      (accepted : (state.errorAgreement.consider error).1 = true) :
      Rule state inputs
        (state.synchronisationEffects inputs.wallTime
          (state.errorAgreement.insert error).mean)
        { state with
          phase := .waitForNextSync
          deadline := inputs.now + state.timings.syncPeriod
          pseudoPulseRunning := true
          errorAgreement := state.errorAgreement.insert error
          compensation := state.compensated (state.errorAgreement.insert error).mean }
  | periodOver (powered : inputs.receiverPower = true)
      (phase : state.phase = .waitForNextSync)
      (due : state.isDue inputs.now = true) :
      Rule state inputs [] { state with phase := .waitForFirstFix }

namespace State

variable {state : State} {inputs : Inputs}

private theorem rule_advanceDrift (powered : inputs.receiverPower = true)
    (phase : state.phase = .measureDrift) :
    Rule state inputs (state.advanceDrift inputs).effects
      (state.advanceDrift inputs).state := by
  unfold advanceDrift
  cases awaiting : state.awaitingDriftResult with
  | false =>
      cases due : state.isDue inputs.now with
      | false => exact .wait powered (by simp [isReady, phase, awaiting, due])
      | true => exact .closeWindow powered phase awaiting due
  | true =>
      cases result : inputs.driftResult with
      | none => exact .wait powered (by simp [isReady, phase, awaiting, result])
      | some outcome =>
          cases outcome with
          | error rejection => exact .rejectWindow powered phase awaiting rejection result
          | ok rate =>
              cases judged : (state.driftAgreement.consider rate).1 with
              | false =>
                  have considered : state.driftAgreement.consider rate =
                      (false, state.driftAgreement.insert rate) := Prod.ext judged rfl
                  simp only [consumeDrift, considered, if_true]
                  exact .disagree powered phase awaiting rate result judged
              | true =>
                  have considered : state.driftAgreement.consider rate =
                      (true, state.driftAgreement.insert rate) := Prod.ext judged rfl
                  simp only [consumeDrift, considered, if_true]
                  exact .agree powered phase awaiting rate result judged

private theorem rule_advanceError (powered : inputs.receiverPower = true)
    (phase : state.phase = .measureError) :
    Rule state inputs (state.advanceError inputs).effects
      (state.advanceError inputs).state := by
  unfold advanceError
  cases result : inputs.errorResult with
  | none => exact .wait powered (by simp [isReady, phase, result])
  | some error =>
      cases judged : (state.errorAgreement.consider error).1 with
      | false =>
          have considered : state.errorAgreement.consider error =
              (false, state.errorAgreement.insert error) := Prod.ext judged rfl
          simp only [considered]
          exact .measureAgain powered phase error result judged
      | true =>
          have considered : state.errorAgreement.consider error =
              (true, state.errorAgreement.insert error) := Prod.ext judged rfl
          simp only [considered, if_true]
          exact .synchronise powered phase error result judged

private theorem rule_of_ready {ready : Bool} {taken : Step}
    (powered : inputs.receiverPower = true) (waitsFor : state.isReady inputs = ready)
    (rule : ready = true → Rule state inputs taken.effects taken.state) :
    Rule state inputs (if ready then taken else .idle state).effects
      (if ready then taken else .idle state).state := by
  cases ready with
  | false => exact .wait powered waitsFor
  | true => exact rule rfl

private theorem rule_advancePowered (powered : inputs.receiverPower = true) :
    Rule state inputs (state.advancePowered inputs).effects
      (state.advancePowered inputs).state := by
  unfold advancePowered
  cases phase : state.phase with
  | waitForPower => exact .wake powered phase
  | init1 =>
      exact rule_of_ready powered (by simp [isReady, phase]) (.prepareFirst powered phase)
  | init2 =>
      exact rule_of_ready powered (by simp [isReady, phase])
        (.prepareSecond powered phase)
  | init3 =>
      exact rule_of_ready powered (by simp [isReady, phase]) (.prepareThird powered phase)
  | waitForFirstFix =>
      refine rule_of_ready powered (by simp [isReady, phase]) fun ready => ?_
      have both := Bool.and_eq_true_iff.mp ready
      exact .acquireFix powered phase both.1 both.2
  | settle1 =>
      refine rule_of_ready powered (by simp [isReady, phase]) fun due => ?_
      cases set : state.systemTimeSet with
      | false => exact .requestTime powered phase due set
      | true => exact .openFirstWindow powered (.inl ⟨phase, set⟩) due
  | setSystemTime =>
      exact rule_of_ready powered (by simp [isReady, phase]) (.timeSet powered phase)
  | settle2 =>
      exact rule_of_ready powered (by simp [isReady, phase])
        (.openFirstWindow powered (.inr phase))
  | measureDrift => exact rule_advanceDrift powered phase
  | measureError => exact rule_advanceError powered phase
  | waitForNextSync =>
      exact rule_of_ready powered (by simp [isReady, phase]) (.periodOver powered phase)

theorem rule_advance (state : State) (inputs : Inputs) :
    Rule state inputs (state.advance inputs).effects (state.advance inputs).state := by
  unfold advance
  cases powered : inputs.receiverPower with
  | false => exact .losePower powered
  | true => exact rule_advancePowered powered

end State

private theorem State.advance_of_unready {state : State} {inputs : Inputs}
    (powered : inputs.receiverPower = true) (unready : state.isReady inputs = false) :
    state.advance inputs = .idle state := by
  unfold State.isReady at unready
  unfold State.advance State.advancePowered State.advanceDrift State.advanceError
  rw [if_pos powered]
  cases awaiting : state.awaitingDriftResult <;> split at unready <;> simp_all

private theorem Rule.eq_advance {state next : State} {inputs : Inputs}
    {effects : List Effect} (rule : Rule state inputs effects next) :
    effects = (state.advance inputs).effects ∧ next = (state.advance inputs).state := by
  cases rule with
  | losePower dark => simp [State.advance, dark, Step.idle]
  | wait powered unready => simp [State.advance_of_unready powered unready, Step.idle]
  | openFirstWindow powered phase due =>
      rcases phase with ⟨phase, set⟩ | phase
      · simp [State.advance, State.advancePowered, State.beginDrift, State.withWindow,
          powered, phase, due, set]
      · simp [State.advance, State.advancePowered, State.beginDrift, State.withWindow,
          powered, phase, due]
  | closeWindow powered phase opened due =>
      simp [State.advance, State.advancePowered, State.advanceDrift, powered, phase,
        opened, due]
  | rejectWindow powered phase awaiting rejection result =>
      simp [State.advance, State.advancePowered, State.advanceDrift, State.consumeDrift,
        State.reopenDriftWindow, State.withWindow, powered, phase, awaiting, result]
  | disagree powered phase awaiting rate result refused =>
      have considered : state.driftAgreement.consider rate =
          (false, state.driftAgreement.insert rate) := Prod.ext refused rfl
      simp [State.advance, State.advancePowered, State.advanceDrift, State.consumeDrift,
        State.reopenDriftWindow, State.withWindow, powered, phase, awaiting, result,
        considered]
  | agree powered phase awaiting rate result accepted =>
      have considered : state.driftAgreement.consider rate =
          (true, state.driftAgreement.insert rate) := Prod.ext accepted rfl
      simp [State.advance, State.advancePowered, State.advanceDrift, State.consumeDrift,
        powered, phase, awaiting, result, considered]
  | measureAgain powered phase error result refused =>
      have considered : state.errorAgreement.consider error =
          (false, state.errorAgreement.insert error) := Prod.ext refused rfl
      simp [State.advance, State.advancePowered, State.advanceError, powered, phase,
        result, considered]
  | synchronise powered phase error result accepted =>
      have considered : state.errorAgreement.consider error =
          (true, state.errorAgreement.insert error) := Prod.ext accepted rfl
      simp [State.advance, State.advancePowered, State.advanceError, State.synchronise,
        State.synchronisationEffects, State.compensated, powered, phase, result,
        considered]
  | _ => simp_all [State.advance, State.advancePowered, State.prepareReceiver, Step.idle]

theorem Rule.unique {state next other : State} {inputs : Inputs}
    {effects further : List Effect}
    (left : Rule state inputs effects next) (right : Rule state inputs further other) :
    effects = further ∧ next = other :=
  ⟨left.eq_advance.1.trans right.eq_advance.1.symm,
    left.eq_advance.2.trans right.eq_advance.2.symm⟩

/-- Every step follows a rule. -/
theorem rule_of_step {state : State} {inputs : Inputs} {taken : Step}
    (stepped : step state inputs = .ok taken) :
    Rule state inputs taken.effects taken.state := by
  unfold step at stepped
  dsimp only at stepped
  split at stepped
  · cases stepped
    exact state.rule_advance inputs
  · cases stepped

theorem exists_step {state : State} {inputs : Inputs}
    (fits : (state.advance inputs).state.deadline < unsignedLimit) :
    ∃ taken, step state inputs = .ok taken := by
  unfold step
  dsimp only
  rw [if_pos fits]
  exact ⟨_, rfl⟩

namespace Rule

variable {before after : State} {inputs : Inputs} {effects : List Effect}

theorem of_windowOpen (rule : Rule before inputs effects after)
    (phase : after.phase = .measureDrift) (opened : after.awaitingDriftResult = false) :
    inputs.receiverPower = true ∧ (.startDrift ∈ effects ∨
      effects = [] ∧ before.phase = .measureDrift ∧
        before.awaitingDriftResult = false) := by
  cases rule <;> simp_all

theorem of_awaiting (rule : Rule before inputs effects after)
    (phase : after.phase = .measureDrift) (awaiting : after.awaitingDriftResult = true) :
    inputs.receiverPower = true ∧ before.phase = .measureDrift ∧
      (effects = [.finishDrift] ∧ before.awaitingDriftResult = false ∨
        effects = [] ∧ before.awaitingDriftResult = true ∧
          inputs.driftResult = none) := by
  cases rule <;> simp_all [State.isReady]

theorem awaitingDriftResult_eq_false (rule : Rule before inputs effects after)
    (powered : inputs.receiverPower = true) (phase : before.phase = .measureDrift)
    (awaiting : before.awaitingDriftResult = true)
    (present : inputs.driftResult.isSome = true) : after.awaitingDriftResult = false := by
  cases rule <;> simp_all [State.isReady]

theorem of_requestTimeSet (rule : Rule before inputs effects after)
    (requests : .requestTimeSet ∈ effects) :
    before.systemTimeSet = false ∧ after.systemTimeSet = true ∧
      after.phase = .setSystemTime := by
  cases rule with
  | synchronise => simp [State.synchronisationEffects] at requests
  | _ => simp_all

theorem systemTimeSet_eq (rule : Rule before inputs effects after)
    (silent : .requestTimeSet ∉ effects) :
    after.systemTimeSet = before.systemTimeSet := by
  cases rule with
  | requestTime => simp at silent
  | _ => rfl

/-- Only the loss of power ends the wait for the time while it is not set. -/
theorem phase_eq_setSystemTime_iff (rule : Rule before inputs effects after)
    (silent : .requestTimeSet ∉ effects) (unset : inputs.timeSetDone = false) :
    after.phase = .setSystemTime ↔
      before.phase = .setSystemTime ∧ inputs.receiverPower = true := by
  cases rule with
  | losePower dark => simp [dark]
  | wait powered => simp [powered]
  | openFirstWindow powered phase => rcases phase with ⟨phase, _⟩ | phase <;> simp [phase]
  | _ => simp_all

theorem of_startDrift (rule : Rule before inputs effects after)
    (starts : .startDrift ∈ effects) :
    before.phase = .settle1 ∧ before.systemTimeSet = true ∨ before.phase = .settle2 ∨
      before.phase = .measureDrift := by
  cases rule with
  | openFirstWindow powered phase => exact phase.imp_right .inl
  | synchronise => simp [State.synchronisationEffects] at starts
  | _ => simp_all

/-- A window is opened last of all, and at most after an old one is aborted. -/
theorem effects_of_startDrift (rule : Rule before inputs effects after)
    (starts : .startDrift ∈ effects) :
    effects = [.abortDrift, .startDrift] ∨ effects = [.startDrift] := by
  cases rule with
  | synchronise => simp [State.synchronisationEffects] at starts
  | _ => simp_all

theorem of_finishDrift (rule : Rule before inputs effects after)
    (finishes : .finishDrift ∈ effects) :
    effects = [.finishDrift] ∧ inputs.receiverPower = true ∧
      before.phase = .measureDrift ∧
      before.awaitingDriftResult = false := by
  cases rule with
  | synchronise => simp [State.synchronisationEffects] at finishes
  | _ => simp_all

theorem of_startError (rule : Rule before inputs effects after)
    (asks : .startError ∈ effects) :
    effects = [.startError] ∧ after.phase = .measureError ∧
      (before.phase = .measureDrift ∧ before.awaitingDriftResult = true ∨
        before.phase = .measureError) := by
  cases rule with
  | synchronise => simp [State.synchronisationEffects] at asks
  | _ => simp_all

theorem of_measureError (rule : Rule before inputs effects after)
    (phase : after.phase = .measureError) :
    .startError ∈ effects ∨ effects = [] ∧ before.phase = .measureError := by
  cases rule <;> simp_all

theorem phase_eq_measureError (rule : Rule before inputs effects after)
    (powered : inputs.receiverPower = true) (phase : before.phase = .measureError)
    (unmeasured : inputs.errorResult = none) : after.phase = .measureError := by
  cases rule <;> simp_all

theorem of_settle2 (rule : Rule before inputs effects after)
    (enters : after.phase = .settle2)
    (outside : before.phase ≠ .settle2) : inputs.timeSetDone = true := by
  cases rule with
  | openFirstWindow => cases enters
  | _ => simp_all

theorem of_sendInit {index : Nat} (rule : Rule before inputs effects after)
    (sends : .sendInit index ∈ effects) : index < Nmea.initialisation.length := by
  have number : Nmea.initialisation.length = 4 := rfl
  cases rule with
  | synchronise => simp [State.synchronisationEffects] at sends
  | _ => simp_all

theorem exists_rate {adjustment : Adjustment} (rule : Rule before inputs effects after)
    (applies : .applyCompensation adjustment ∈ effects) :
    ∃ rate, adjustment = .ofRate rate := by
  cases rule with
  | synchronise powered phase error =>
      refine ⟨(before.compensated (before.errorAgreement.insert error).mean).total, ?_⟩
      simpa [State.synchronisationEffects] using applies
  | _ => simp at applies

/-- A deadline is kept, or lies one of the delays ahead. -/
theorem deadline (rule : Rule before inputs effects after) :
    after.deadline = before.deadline ∨
      ∃ delay ∈ before.timings.delays, after.deadline = inputs.now + delay := by
  cases rule with
  | losePower => exact .inl rfl
  | wait => exact .inl rfl
  | requestTime => exact .inl rfl
  | closeWindow => exact .inl rfl
  | agree => exact .inl rfl
  | measureAgain => exact .inl rfl
  | periodOver => exact .inl rfl
  | _ => exact .inr ⟨_, by simp [Timings.delays], rfl⟩

end Rule

/-! ## Phases that need the time -/

def Phase.followsTimeSetting : Phase → Bool
  | .setSystemTime => true
  | .settle2 => true
  | .measureDrift => true
  | .measureError => true
  | .waitForNextSync => true
  | _ => false

def Phase.isMeasuring : Phase → Bool
  | .measureDrift => true
  | .measureError => true
  | .waitForNextSync => true
  | _ => false

theorem Rule.followsTimeSetting {before after : State} {inputs : Inputs}
    {effects : List Effect} (rule : Rule before inputs effects after)
    (kept : before.phase.followsTimeSetting = true → before.systemTimeSet = true)
    (follows : after.phase.followsTimeSetting = true) : after.systemTimeSet = true := by
  cases rule with
  | openFirstWindow powered phase due =>
      rcases phase with ⟨_, set⟩ | phase
      · exact set
      · exact kept (by simp [phase, Phase.followsTimeSetting])
  | _ => simp_all [Phase.followsTimeSetting]

theorem Rule.of_isMeasuring {before after : State} {inputs : Inputs}
    {effects : List Effect}
    (rule : Rule before inputs effects after)
    (measures : after.phase.isMeasuring = true) :
    before.phase.isMeasuring = true ∨ .startDrift ∈ effects := by
  cases rule with
  | openFirstWindow => exact .inr (by simp)
  | _ => simp_all [Phase.isMeasuring]

end ClockDiscipline.Sync
