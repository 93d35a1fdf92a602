import ClockDiscipline.Proofs.Agreement
import ClockDiscipline.Proofs.Sync.Run

/-!
What leads to a synchronisation. A stay in the drift phase collects the rates of its
windows until the last five agree, the stay in the error phase that follows collects
errors in the same way, and the rate that is then applied to the clock depends on these
two lists and on nothing older.
-/

namespace ClockDiscipline.Sync

namespace Transition

def EntersDrift (transition : Transition) : Prop :=
  transition.before.phase ≠ .measureDrift ∧ transition.after.phase = .measureDrift

structure StaysIn (phase : Phase) (transition : Transition) : Prop where
  powered : transition.inputs.receiverPower = true
  before : transition.before.phase = phase
  after : transition.after.phase = phase

def consumedDrift (transition : Transition) : Option (Except Rejection Float) :=
  if transition.inputs.receiverPower ∧ transition.before.phase = .measureDrift ∧
      transition.before.awaitingDriftResult then transition.inputs.driftResult
  else none

/-- The drift rate that the transition consumes. A rejected window gives none. -/
def consumedRate (transition : Transition) : Option Float :=
  transition.consumedDrift.bind Except.toOption

def consumedError (transition : Transition) : Option Float :=
  if transition.inputs.receiverPower ∧ transition.before.phase = .measureError then
    transition.inputs.errorResult
  else none

variable {transition : Transition}

theorem consumedDrift_eq_some_iff {result : Except Rejection Float} :
    transition.consumedDrift = some result ↔
      (transition.inputs.receiverPower = true ∧ transition.before.phase = .measureDrift ∧
        transition.before.awaitingDriftResult = true) ∧
      transition.inputs.driftResult = some result := by
  rw [consumedDrift, Option.ite_none_right_eq_some]

theorem consumedError_eq_some_iff {error : Float} :
    transition.consumedError = some error ↔
      (transition.inputs.receiverPower = true ∧ transition.before.phase = .measureError) ∧
      transition.inputs.errorResult = some error := by
  rw [consumedError, Option.ite_none_right_eq_some]

end Transition

def rates (stay : List Transition) : List Float :=
  (stay.filterMap Transition.consumedRate).reverse

def errors (stay : List Transition) : List Float :=
  (stay.filterMap Transition.consumedError).reverse

theorem rates_cons (transition : Transition) (stay : List Transition) :
    rates (transition :: stay) = rates stay ++ transition.consumedRate.toList := by
  cases consumed : transition.consumedRate <;> simp [rates, consumed]

theorem errors_cons (transition : Transition) (stay : List Transition) :
    errors (transition :: stay) = errors stay ++ transition.consumedError.toList := by
  cases consumed : transition.consumedError <;> simp [errors, consumed]

/-! ## Windows and their outcomes -/

def ClosedLast (stay : List Transition) : Prop :=
  ∃ idle closing older, stay = idle ++ closing :: older ∧
    Effect.finishDrift ∈ closing.effects ∧ ∀ transition ∈ idle, transition.effects = []

/-- Each outcome that was consumed is that of the window closed last. -/
def EachClosed (stay : List Transition) : Prop :=
  ∀ consuming older, consuming :: older <:+ stay → consuming.consumedDrift ≠ none →
    ClosedLast older

private theorem eachClosed_nil : EachClosed [] := by
  intro consuming older suffix
  simp at suffix

private theorem EachClosed.cons {transition : Transition} {stay : List Transition}
    (each : EachClosed stay)
    (closed : transition.consumedDrift ≠ none → ClosedLast stay) :
    EachClosed (transition :: stay) := by
  intro consuming older suffix consumes
  rcases List.suffix_cons_iff.mp suffix with whole | within
  · cases whole
    exact closed consumes
  · exact each consuming older within consumes

private theorem ClosedLast.cons {transition : Transition} {stay : List Transition}
    (closed : ClosedLast stay) (idle : transition.effects = []) :
    ClosedLast (transition :: stay) := by
  rcases closed with ⟨waiting, closing, older, rfl, finishes, quiet⟩
  refine ⟨transition :: waiting, closing, older, rfl, finishes, ?_⟩
  intro other member
  rcases List.mem_cons.mp member with rfl | member
  · exact idle
  · exact quiet other member

/-! ## A stay in the drift phase -/

/-- What a stay in the drift phase has come to since `entry`. -/
structure DriftStay (entry : Transition) (stay : List Transition) (state : State) :
    Prop where
  entered : entry.EntersDrift
  within : ∀ transition ∈ stay, transition.StaysIn .measureDrift
  eachClosed : EachClosed stay
  closed : state.awaitingDriftResult = true → ClosedLast stay
  agreement : ∃ earlier : Agreement, earlier.tolerance = Agreement.driftTolerance ∧
    state.driftAgreement = earlier.given (rates stay)
  compensation : state.compensation = entry.before.compensation

namespace DriftStay

variable {entry : Transition} {stay : List Transition} {before after : State}
  {inputs : Inputs}
  {effects : List Effect}

private theorem cons (soFar : DriftStay entry stay before)
    (stays : Transition.StaysIn .measureDrift ⟨before, inputs, effects, after⟩)
    (closed : after.awaitingDriftResult = true →
      ClosedLast (⟨before, inputs, effects, after⟩ :: stay))
    (agreement : after.driftAgreement =
      (Transition.consumedRate ⟨before, inputs, effects, after⟩).toList.foldl
        Agreement.insert
        before.driftAgreement)
    (compensation : after.compensation = before.compensation) :
    DriftStay entry (⟨before, inputs, effects, after⟩ :: stay) after where
  entered := soFar.entered
  within := List.forall_mem_cons.mpr ⟨stays, soFar.within⟩
  eachClosed := by
    refine soFar.eachClosed.cons fun consumes => soFar.closed ?_
    by_contra unawaited
    simp [Transition.consumedDrift, unawaited] at consumes
  closed := closed
  agreement := by
    rcases soFar.agreement with ⟨earlier, tolerance, given⟩
    refine ⟨earlier, tolerance, ?_⟩
    rw [agreement, given, rates_cons, Agreement.given, Agreement.given, List.foldl_append]
  compensation := compensation.trans soFar.compensation

private theorem of_rule (soFar : DriftStay entry stay before)
    (phase : before.phase = .measureDrift) (rule : Rule before inputs effects after)
    (remains : after.phase = .measureDrift) :
    DriftStay entry (⟨before, inputs, effects, after⟩ :: stay) after := by
  cases rule with
  | wait powered unready =>
      -- A step that consumes an outcome is ready, so this one adds no rate.
      have unconsumed : Transition.consumedRate ⟨before, inputs, [], before⟩ = none := by
        cases awaiting : before.awaitingDriftResult <;>
          simp_all [State.isReady, Transition.consumedRate, Transition.consumedDrift]
      exact soFar.cons ⟨powered, phase, phase⟩
        (fun awaiting => (soFar.closed awaiting).cons rfl)
        (by rw [unconsumed]; rfl) rfl
  | closeWindow powered _ opened due =>
      refine soFar.cons ⟨powered, phase, phase⟩ (fun _ => ?_) ?_ rfl
      · exact ⟨[], _, stay, rfl, List.mem_singleton_self _, by simp⟩
      · simp [Transition.consumedRate, Transition.consumedDrift, opened]
  | rejectWindow powered _ awaiting rejection result =>
      refine soFar.cons ⟨powered, phase, phase⟩ (fun awaits => ?_) ?_ rfl
      · cases awaits
      · simp [Transition.consumedRate, Transition.consumedDrift, powered, phase, awaiting,
          result, State.withWindow, Except.toOption]
  | disagree powered _ awaiting rate result refused =>
      refine soFar.cons ⟨powered, phase, phase⟩ (fun awaits => ?_) ?_ rfl
      · cases awaits
      · simp [Transition.consumedRate, Transition.consumedDrift, powered, phase, awaiting,
          result, Except.toOption]
  | losePower dark => cases remains
  | agree => cases remains
  | _ => simp_all

private theorem of_entry
    (enters : Transition.EntersDrift ⟨before, inputs, effects, after⟩)
    (rule : Rule before inputs effects after)
    (tolerance : before.driftAgreement.tolerance = Agreement.driftTolerance) :
    DriftStay ⟨before, inputs, effects, after⟩ [] after := by
  have outside : before.phase ≠ .measureDrift := enters.1
  have inside : after.phase = .measureDrift := enters.2
  cases rule with
  | openFirstWindow powered phase due =>
      exact ⟨enters,
        by simp, eachClosed_nil, nofun, ⟨before.driftAgreement, tolerance, rfl⟩, rfl⟩
  | losePower => cases inside
  | _ => simp_all

end DriftStay

private theorem Run.driftStay {timings : Timings} {past : List Transition} {state : State}
    (run : Run timings past state) (phase : state.phase = .measureDrift) :
    ∃ entry stay older, past = stay ++ entry :: older ∧ DriftStay entry stay state := by
  induction run using rule_induction with
  | start => cases phase
  | step past before inputs effects after run whole rule induction =>
      by_cases stays : before.phase = .measureDrift
      · rcases induction stays with ⟨entry, stay, older, rfl, soFar⟩
        exact ⟨entry, _ :: stay, older, rfl, soFar.of_rule stays rule phase⟩
      · exact ⟨_, [], past, rfl, .of_entry ⟨stays, phase⟩ rule run.driftTolerance_eq⟩

/-! ## A stay in the error phase -/

/-- What a stay in the error phase has come to since `passing`, with which a stay in the
drift phase ended. -/
structure ErrorStay (entry : Transition) (driftStay : List Transition)
    (passing : Transition)
    (stay : List Transition) (state : State) : Prop where
  drift : DriftStay entry driftStay passing.before
  powered : passing.inputs.receiverPower = true
  leaves : passing.before.phase = .measureDrift
  enters : passing.after.phase = .measureError
  eachClosed : EachClosed (passing :: driftStay)
  agrees : Agreement.Agree Agreement.driftTolerance (rates (passing :: driftStay))
  within : ∀ transition ∈ stay, transition.StaysIn .measureError
  agreement : ∃ earlier : Agreement, earlier.tolerance = Agreement.errorTolerance ∧
    state.errorAgreement = earlier.given (errors stay)
  compensation : state.compensation =
    { entry.before.compensation with
      driftRate := Agreement.meanOf (rates (passing :: driftStay)) }

namespace ErrorStay

variable {entry passing : Transition} {driftStay stay : List Transition}
  {before after : State}
  {inputs : Inputs} {effects : List Effect}

private theorem cons (soFar : ErrorStay entry driftStay passing stay before)
    (stays : Transition.StaysIn .measureError ⟨before, inputs, effects, after⟩)
    (agreement : after.errorAgreement =
      (Transition.consumedError ⟨before, inputs, effects, after⟩).toList.foldl
        Agreement.insert
        before.errorAgreement)
    (compensation : after.compensation = before.compensation) :
    ErrorStay entry driftStay passing
      (⟨before, inputs, effects, after⟩ :: stay) after where
  __ := soFar
  within := List.forall_mem_cons.mpr ⟨stays, soFar.within⟩
  agreement := by
    rcases soFar.agreement with ⟨earlier, tolerance, given⟩
    refine ⟨earlier, tolerance, ?_⟩
    rw [agreement, given, errors_cons, Agreement.given, Agreement.given,
      List.foldl_append]
  compensation := compensation.trans soFar.compensation

private theorem of_rule (soFar : ErrorStay entry driftStay passing stay before)
    (phase : before.phase = .measureError) (rule : Rule before inputs effects after)
    (remains : after.phase = .measureError) :
    ErrorStay entry driftStay passing
      (⟨before, inputs, effects, after⟩ :: stay) after := by
  cases rule with
  | wait powered unready =>
      have absent : inputs.errorResult = none := by
        simpa [State.isReady, phase] using unready
      exact soFar.cons ⟨powered, phase, phase⟩
        (by simp [Transition.consumedError, absent]) rfl
  | measureAgain powered _ error result refused =>
      exact soFar.cons ⟨powered, phase, phase⟩
        (by simp [Transition.consumedError, powered, phase, result]) rfl
  | losePower dark => cases remains
  | synchronise => cases remains
  | _ => simp_all

private theorem of_entry (drift : DriftStay entry driftStay before)
    (leaves : before.phase = .measureDrift) (rule : Rule before inputs effects after)
    (enters : after.phase = .measureError)
    (tolerance : before.errorAgreement.tolerance = Agreement.errorTolerance) :
    ErrorStay entry driftStay ⟨before, inputs, effects, after⟩ [] after := by
  cases rule with
  | agree powered _ awaiting rate result accepted =>
      rcases drift.agreement with ⟨earlier, driftTolerance, given⟩
      have consumed (effects : List Effect) (next : State) :
          rates (⟨before, inputs, effects, next⟩ :: driftStay) =
            rates driftStay ++ [rate] := by
        rw [rates_cons]
        simp [Transition.consumedRate, Transition.consumedDrift, powered, leaves,
          awaiting, result, Except.toOption]
      have agrees :
          Agreement.Agree Agreement.driftTolerance (rates driftStay ++ [rate]) := by
        rw [given, Agreement.consider_given_iff, driftTolerance] at accepted
        exact accepted
      refine ⟨drift, powered, leaves, enters, ?_, ?_, by simp, ?_, ?_⟩
      · exact drift.eachClosed.cons fun _ => drift.closed awaiting
      · rw [consumed]
        exact agrees
      · exact ⟨before.errorAgreement, tolerance, rfl⟩
      · rw [consumed, ← Agreement.mean_given earlier _ agrees.1, Agreement.given_append,
          ← given, ← drift.compensation]
  | losePower => cases enters
  | _ => simp_all

private theorem measured (soFar : ErrorStay entry driftStay passing stay before)
    (effects : List Effect)
    (after : State) {error : Float} (powered : inputs.receiverPower = true)
    (phase : before.phase = .measureError) (result : inputs.errorResult = some error)
    (accepted : (before.errorAgreement.consider error).1 = true) :
    Agreement.Agree Agreement.errorTolerance
      (errors (⟨before, inputs, effects, after⟩ :: stay)) ∧
      (before.errorAgreement.insert error).mean =
        Agreement.meanOf (errors (⟨before, inputs, effects, after⟩ :: stay)) := by
  rcases soFar.agreement with ⟨earlier, tolerance, given⟩
  have consumed : errors (⟨before, inputs, effects, after⟩ :: stay) =
      errors stay ++ [error] := by
    rw [errors_cons]
    simp [Transition.consumedError, powered, phase, result]
  have agrees : Agreement.Agree Agreement.errorTolerance (errors stay ++ [error]) := by
    rw [given, Agreement.consider_given_iff, tolerance] at accepted
    exact accepted
  rw [consumed]
  refine ⟨agrees, ?_⟩
  rw [given, ← Agreement.given_append, Agreement.mean_given _ _ agrees.1]

private theorem not_entersDrift (soFar : ErrorStay entry driftStay passing stay before) :
    ∀ transition ∈ stay ++ passing :: driftStay, ¬transition.EntersDrift := by
  simp only [List.forall_mem_append, List.forall_mem_cons]
  refine ⟨fun transition member enters => ?_, fun enters => ?_,
    fun transition member enters => ?_⟩
  · exact absurd ((soFar.within transition member).after.symm.trans enters.2) (by decide)
  · exact enters.1 soFar.leaves
  · exact enters.1 (soFar.drift.within transition member).before

private theorem powered_throughout
    (soFar : ErrorStay entry driftStay passing stay before) :
    ∀ transition ∈ stay ++ passing :: driftStay,
      transition.inputs.receiverPower = true := by
  simp only [List.forall_mem_append, List.forall_mem_cons]
  exact ⟨fun transition member => (soFar.within transition member).powered, soFar.powered,
    fun transition member => (soFar.drift.within transition member).powered⟩

end ErrorStay

/-- A run in the error phase is in a stay there, which follows a stay in the drift
phase. -/
theorem Run.errorStay {timings : Timings} {past : List Transition} {state : State}
    (run : Run timings past state) (phase : state.phase = .measureError) :
    ∃ entry driftStay passing stay older,
      past = stay ++ passing :: (driftStay ++ entry :: older) ∧
        ErrorStay entry driftStay passing stay state := by
  induction run using rule_induction with
  | start => cases phase
  | step past before inputs effects after run whole rule induction =>
      by_cases stays : before.phase = .measureError
      · rcases induction stays with ⟨entry, driftStay, passing, stay, older, rfl, soFar⟩
        exact ⟨entry, driftStay, passing, _ :: stay, older, rfl,
          soFar.of_rule stays rule phase⟩
      · have leaves : before.phase = .measureDrift := by
          cases rule with
          | losePower => cases phase
          | _ => simp_all
        rcases run.driftStay leaves with ⟨entry, driftStay, older, rfl, drift⟩
        exact ⟨entry, driftStay, _, [], older, rfl,
          .of_entry drift leaves rule phase run.errorTolerance_eq⟩

/-! ## A completed synchronisation -/

/-- The transitions from an entry to the drift phase up to a completed synchronisation. -/
structure Cycle where
  entry : Transition
  driftStay : List Transition
  passing : Transition
  errorStay : List Transition
  completing : Transition

namespace Cycle

def sinceEntry (cycle : Cycle) : List Transition :=
  (cycle.completing :: cycle.errorStay) ++ cycle.passing :: cycle.driftStay

def rates (cycle : Cycle) : List Float := Sync.rates (cycle.passing :: cycle.driftStay)

def errors (cycle : Cycle) : List Float :=
  Sync.errors (cycle.completing :: cycle.errorStay)

/-- The compensation from before the cycle, updated once with the means of what it
measured. -/
def compensation (cycle : Cycle) (period : Nat) : Compensation Float :=
  { cycle.entry.before.compensation with
    driftRate := Agreement.meanOf cycle.rates
    error := Agreement.meanOf cycle.errors }.update (Float.ofNat period)

/-- The cycle is the latest one, has had power all the time, and has measured what it
applies. -/
structure Holds (cycle : Cycle) (period : Nat) : Prop where
  entered : cycle.entry.EntersDrift
  latest : ∀ transition ∈ cycle.sinceEntry, ¬transition.EntersDrift
  powered : ∀ transition ∈ cycle.sinceEntry, transition.inputs.receiverPower = true
  inDrift : ∀ transition ∈ cycle.passing :: cycle.driftStay,
    transition.before.phase = .measureDrift
  inError : ∀ transition ∈ cycle.completing :: cycle.errorStay,
    transition.before.phase = .measureError
  passes : cycle.passing.after.phase = .measureError
  eachClosed : EachClosed (cycle.passing :: cycle.driftStay)
  ratesAgree : Agreement.Agree Agreement.driftTolerance cycle.rates
  errorsAgree : Agreement.Agree Agreement.errorTolerance cycle.errors
  driftRate : cycle.completing.after.compensation.driftRate = Agreement.meanOf cycle.rates
  error : cycle.completing.after.compensation.error = Agreement.meanOf cycle.errors
  updated : cycle.completing.after.compensation = cycle.compensation period

theorem holds_of_errorStay {entry passing : Transition} {driftStay stay : List Transition}
    {before : State} {inputs : Inputs} {error : Float} (effects : List Effect)
    (next : State) (soFar : ErrorStay entry driftStay passing stay before)
    (powered : inputs.receiverPower = true) (phase : before.phase = .measureError)
    (result : inputs.errorResult = some error)
    (accepted : (before.errorAgreement.consider error).1 = true)
    (reaches : next.phase = .waitForNextSync)
    (compensation : next.compensation =
      before.compensated (before.errorAgreement.insert error).mean) :
    Cycle.Holds ⟨entry, driftStay, passing, stay, ⟨before, inputs, effects, next⟩⟩
        before.timings.syncPeriod ∧
      (before.errorAgreement.insert error).mean =
        Agreement.meanOf (Cycle.errors ⟨entry, driftStay, passing, stay,
          ⟨before, inputs, effects, next⟩⟩) := by
  rcases soFar.measured effects next powered phase result accepted with ⟨agrees, mean⟩
  have updated : next.compensation = Cycle.compensation ⟨entry, driftStay, passing, stay,
      ⟨before, inputs, effects, next⟩⟩ before.timings.syncPeriod := by
    rw [compensation, State.compensated, mean, soFar.compensation]
    rfl
  refine ⟨?_, mean⟩
  constructor
  case entered => exact soFar.drift.entered
  case latest =>
    refine List.forall_mem_cons.mpr ⟨fun enters => ?_, soFar.not_entersDrift⟩
    exact absurd (reaches.symm.trans enters.2) (by decide)
  case powered => exact List.forall_mem_cons.mpr ⟨powered, soFar.powered_throughout⟩
  case inDrift =>
    exact List.forall_mem_cons.mpr ⟨soFar.leaves,
      fun transition member => (soFar.drift.within transition member).before⟩
  case inError =>
    exact List.forall_mem_cons.mpr ⟨phase,
      fun transition member => (soFar.within transition member).before⟩
  case passes => exact soFar.enters
  case eachClosed => exact soFar.eachClosed
  case ratesAgree => exact soFar.agrees
  case errorsAgree => exact agrees
  case driftRate => rw [updated]; rfl
  case error => rw [updated]; rfl
  case updated => exact updated

end Cycle

theorem Rule.of_applyCompensation {before after : State} {inputs : Inputs}
    {effects : List Effect}
    {adjustment : Adjustment} (rule : Rule before inputs effects after)
    (applies : Effect.applyCompensation adjustment ∈ effects) :
    ∃ error, inputs.receiverPower = true ∧ before.phase = .measureError ∧
      inputs.errorResult = some error ∧ (before.errorAgreement.consider error).1 = true ∧
      effects = before.synchronisationEffects inputs.wallTime
        (before.errorAgreement.insert error).mean ∧
      after.phase = .waitForNextSync ∧
      after.compensation =
        before.compensated (before.errorAgreement.insert error).mean := by
  cases rule with
  | synchronise powered phase error result accepted =>
      exact ⟨error, powered, phase, result, accepted, rfl, rfl, rfl⟩
  | _ => simp at applies

/-- Whenever a run adjusts the clock it completes a cycle, and the adjustment is what the
cycle measured. -/
theorem Run.cycle_of_applyCompensation {timings : Timings}
    {past earlier : List Transition}
    {state : State} {completing : Transition} {adjustment : Adjustment}
    (run : Run timings past state) (suffix : completing :: earlier <:+ past)
    (applies : Effect.applyCompensation adjustment ∈ completing.effects) :
    ∃ (cycle : Cycle) (older : List Transition),
      cycle.completing = completing ∧
      completing :: earlier = cycle.sinceEntry ++ cycle.entry :: older ∧
      cycle.Holds timings.syncPeriod ∧
      adjustment = .ofRate (cycle.compensation timings.syncPeriod).total ∧
      ∀ lastSynchronised error,
        Effect.publishStatus lastSynchronised error ∈ completing.effects ↔
          lastSynchronised = completing.inputs.wallTime ∧
            error = Agreement.meanOf cycle.errors := by
  rcases (run.of_suffix suffix).of_cons with ⟨reached, -, rule⟩
  rcases completing with ⟨before, inputs, effects, after⟩
  rcases rule.of_applyCompensation applies with
    ⟨error, powered, phase, result, accepted, asked, leads, compensation⟩
  rcases reached.errorStay phase with ⟨entry, driftStay, passing, stay, older, rfl, soFar⟩
  rcases Cycle.holds_of_errorStay effects after soFar powered phase result accepted leads
    compensation with ⟨holds, mean⟩
  rw [reached.timings_eq] at holds
  have updated : after.compensation = _ := holds.updated
  dsimp only at asked applies
  refine ⟨⟨entry, driftStay, passing, stay, ⟨before, inputs, effects, after⟩⟩, older,
    rfl, ?_, holds, ?_, ?_⟩
  · simp [Cycle.sinceEntry]
  · rw [← updated, compensation]
    cases running : before.pseudoPulseRunning <;>
      simpa [asked, State.synchronisationEffects, running] using applies
  · intro lastSynchronised error
    rw [← mean]
    cases running : before.pseudoPulseRunning <;>
      simp [asked, State.synchronisationEffects, running]

def told (driftResult : Option (Except Rejection Float)) (errorResult : Option Float)
    (instant : Nat) : Inputs :=
  ⟨100 * instant, 100 * instant, true, true, true, driftResult, errorResult⟩

/-- A first synchronisation. One window is rejected, and one rate and one error stand
apart from the others. -/
def firstSynchronisation : List Inputs :=
  let preparation := List.replicate 8 (told none none)
  let windows := [.error .lostFix, .ok 0.001, .ok 0.00001, .ok 0.000012, .ok 0.00001,
    .ok 0.000008, .ok 0.00001].flatMap fun outcome => [told none none,
    told (some outcome) none]
  let measurements :=
    [0.5, 0.01, 0.01, 0.012, 0.01, 0.008].map fun error => told none (some error)
  ((preparation ++ windows ++ measurements).mapIdx fun index inputs =>
    inputs index).reverse

def Transition.adjustments (transition : Transition) : List Adjustment :=
  transition.effects.filterMap fun
    | .applyCompensation adjustment => some adjustment
    | _ => none

theorem Transition.mem_adjustments_iff {transition : Transition}
    {adjustment : Adjustment} :
    adjustment ∈ transition.adjustments ↔
      .applyCompensation adjustment ∈ transition.effects := by
  simp only [adjustments, List.mem_filterMap]
  constructor
  · rintro ⟨effect, member, equal⟩
    cases effect with
    | applyCompensation other => cases equal; exact member
    | _ => cases equal
  · exact fun member => ⟨_, member, rfl⟩

theorem cycle_of_firstSynchronisation :
    ∃ past state, follow? .standard firstSynchronisation = some (past, state) ∧
      ∃ cycle : Cycle, cycle.completing ∈ past ∧
        ⟨10000, -12 * 65536⟩ ∈ cycle.completing.adjustments ∧ cycle.Holds 3600 ∧
        ⟨10000, -12 * 65536⟩ = Adjustment.ofRate (cycle.compensation 3600).total := by
  have adjusted : ((follow? .standard firstSynchronisation).bind fun run =>
      run.1.head?.map Transition.adjustments) = some [⟨10000, -12 * 65536⟩] := by
    decide +kernel
  rcases Option.bind_eq_some_iff.mp adjusted with ⟨⟨past, state⟩, followed, adjusts⟩
  rcases Option.map_eq_some_iff.mp adjusts with ⟨completing, first, adjustments⟩
  rcases List.head?_eq_some_iff.mp first with ⟨earlier, rfl⟩
  have applies : ⟨10000, -12 * 65536⟩ ∈ completing.adjustments := by simp [adjustments]
  rcases Run.cycle_of_applyCompensation (run_of_follow? followed) (List.suffix_refl _)
    (Transition.mem_adjustments_iff.mp applies) with
    ⟨cycle, older, rfl, -, holds, equal, -⟩
  exact ⟨_, state, followed, cycle, List.mem_cons_self, applies, holds, equal⟩

end ClockDiscipline.Sync
