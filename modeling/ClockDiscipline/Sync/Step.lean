import ClockDiscipline.Overflow
import ClockDiscipline.Sync.State

/-!
One step of synchronisation. `State.advance` says where each phase leads and what it asks
for; `step` adds the change of phase to the journal and refuses a deadline that lies
beyond the last instant.
-/

namespace ClockDiscipline.Sync

structure Step where
  state : State
  effects : List Effect
  entries : List Entry

namespace Step

def idle (state : State) : Step := ⟨state, [], []⟩

end Step

namespace State

/-! ## Drift windows -/

def beginDrift (state : State) (now : Nat) : Step where
  state := { state with
    phase := .measureDrift
    deadline := now + state.timings.driftWindow
    awaitingDriftResult := false
    driftAgreement := state.driftAgreement.restart }
  effects := [.abortDrift, .startDrift]
  entries := []

/-- Open another window; the agreement keeps its samples. -/
def reopenDriftWindow (state : State) (now : Nat) (entry : Entry) : Step where
  state := { state with deadline := now + state.timings.driftWindow }
  effects := [.startDrift]
  entries := [entry]

/-- Judge the outcome of a window. A steady rate leads to the error measurements. -/
def consumeDrift (state : State) (now : Nat) (result : Except Rejection Float) : Step :=
  let state := { state with awaitingDriftResult := false }
  match result with
  | .error rejection =>
      state.reopenDriftWindow now
        (.warn .synchronisation s!"Drift measurement rejected: {rejection.message}")
  | .ok rate =>
      let (accepted, agreement) := state.driftAgreement.consider rate
      let state := { state with driftAgreement := agreement }
      if accepted then
        let mean := agreement.mean
        { state := { state with
            phase := .measureError
            compensation := { state.compensation with driftRate := mean }
            errorAgreement := state.errorAgreement.restart }
          effects := [.startError]
          entries := [.info .synchronisation <|
            s!"Drift rate is {Decimal.fixed 9 mean} s/s " ++
              s!"({Decimal.fixed 3 (mean * 3600.0 * 1000.0)} msec/hr)"] }
      else
        state.reopenDriftWindow now (.debug .synchronisation
          s!"Drift rate {Decimal.fixed 9 rate} s/s not yet accepted by filter")

def advanceDrift (state : State) (inputs : Inputs) : Step :=
  if state.awaitingDriftResult then
    match inputs.driftResult with
    | none => .idle state
    | some result => state.consumeDrift inputs.now result
  else if state.isDue inputs.now then
    { state := { state with awaitingDriftResult := true }
      effects := [.finishDrift]
      entries := [] }
  else
    .idle state

/-! ## Error measurements -/

def synchronise (state : State) (inputs : Inputs) (error : Float) : Step :=
  let measured := { state.compensation with error := error }
  let compensation := measured.update (Float.ofNat state.timings.syncPeriod)
  { state := { state with
      phase := .waitForNextSync
      deadline := inputs.now + state.timings.syncPeriod
      pseudoPulseRunning := true
      compensation := compensation }
    effects :=
      [.applyCompensation (.ofRate compensation.total)] ++
        (if state.pseudoPulseRunning then [] else [.startPseudoPulse]) ++
        [.persistHardwareClock, .publishStatus inputs.wallTime error]
    entries :=
      .info .synchronisation s!"System time error is {Decimal.fixed 6 error} s" ::
        measured.updateEntries state.timings.syncPeriod }

def advanceError (state : State) (inputs : Inputs) : Step :=
  match inputs.errorResult with
  | none => .idle state
  | some error =>
      let (accepted, agreement) := state.errorAgreement.consider error
      let state := { state with errorAgreement := agreement }
      if accepted then
        state.synchronise inputs agreement.mean
      else
        { state := state
          effects := [.startError]
          entries := [.debug .synchronisation
            s!"System time error {Decimal.fixed 6 error} s not yet accepted by filter"] }

/-! ## Preparing the receiver -/

def prepareReceiver (state : State) (index : Nat) (next : Phase) (now : Nat) : Step where
  state := { state with phase := next, deadline := now + state.timings.initStepDelay }
  effects := [.sendInit index]
  entries := []

/-! ## All phases -/

def advancePowered (state : State) (inputs : Inputs) : Step :=
  let now := inputs.now
  match state.phase with
  | .waitForPower =>
      let sent := state.prepareReceiver 0 .init1 now
      { sent with effects := .flushQueues :: sent.effects }
  | .init1 => if state.isDue now then state.prepareReceiver 1 .init2 now else .idle state
  | .init2 => if state.isDue now then state.prepareReceiver 2 .init3 now else .idle state
  | .init3 =>
      if state.isDue now then
        let sent := state.prepareReceiver 3 .waitForFirstFix now
        { sent with effects := sent.effects ++ [.clearFix] }
      else
        .idle state
  | .waitForFirstFix =>
      if state.isDue now && inputs.hasFix then
        .idle
          { state with phase := .settle1, deadline := now + state.timings.firstFixSettle }
      else
        .idle state
  | .settle1 =>
      if state.isDue now then
        -- The time is set once; from then on only the rate of the clock changes.
        if state.systemTimeSet then state.beginDrift now
        else
          { state := { state with phase := .setSystemTime, systemTimeSet := true }
            effects := [.requestTimeSet]
            entries := [] }
      else
        .idle state
  | .setSystemTime =>
      if inputs.timeSetDone then
        .idle
          { state with phase := .settle2, deadline := now + state.timings.timeSetSettle }
      else
        .idle state
  | .settle2 => if state.isDue now then state.beginDrift now else .idle state
  | .measureDrift => state.advanceDrift inputs
  | .measureError => state.advanceError inputs
  | .waitForNextSync =>
      if state.isDue now then .idle { state with phase := .waitForFirstFix }
      else .idle state

/-- One step. Without power everything waits for power. -/
def advance (state : State) (inputs : Inputs) : Step :=
  if inputs.receiverPower then state.advancePowered inputs
  else .idle { state with phase := .waitForPower }

end State

/-! ## The journal and the last instant -/

def phaseEntries (before after : State) : List Entry :=
  if after.phase = before.phase then []
  else [.info .synchronisation s!"Sync phase: {before.phase.name} -> {after.phase.name}"]

structure Halted where
  overflow : Overflow
  entries : List Entry

def step (state : State) (inputs : Inputs) : Except Halted Step :=
  let step := state.advance inputs
  if step.state.deadline < unsignedLimit then
    .ok { step with entries := step.entries ++ phaseEntries state step.state }
  else
    .error ⟨.addition, step.entries⟩

end ClockDiscipline.Sync
