import ClockDiscipline.Proofs.Sync.Rule

/-!
Runs of synchronisation: steps from the initial state, each told whatever it may be told.
What a run has done stands newest first, so the past of a transition is what follows it in
the list.
-/

namespace ClockDiscipline.Sync

structure Transition where
  before : State
  inputs : Inputs
  effects : List Effect
  after : State

/-- `Run timings past state`: from the initial state the transitions in `past`, newest
first, lead to `state`. -/
inductive Run (timings : Timings) : List Transition → State → Prop
  | start : Run timings [] (.initial timings)
  | step {past : List Transition} {state : State} (run : Run timings past state)
      (inputs : Inputs)
      {taken : Step} (stepped : step state inputs = .ok taken) :
      Run timings (⟨state, inputs, taken.effects, taken.state⟩ :: past) taken.state

namespace Run

variable {timings : Timings} {past : List Transition} {state : State}

/-- What holds at the start and is kept by every rule holds throughout a run. -/
@[elab_as_elim]
theorem rule_induction
    {motive : (past : List Transition) → (state : State) → Run timings past state → Prop}
    (start : motive [] (.initial timings) .start)
    (step : ∀ past before inputs effects after (run : Run timings past before)
      (whole : Run timings (⟨before, inputs, effects, after⟩ :: past) after),
      Rule before inputs effects after → motive past before run →
        motive (⟨before, inputs, effects, after⟩ :: past) after whole)
    (run : Run timings past state) : motive past state run := by
  induction run with
  | start => exact start
  | step run inputs stepped induction =>
      exact step _ _ inputs _ _ run (.step run inputs stepped)
        (rule_of_step stepped) induction

theorem of_cons {transition : Transition} (run : Run timings (transition :: past) state) :
    Run timings past transition.before ∧ state = transition.after ∧
      Rule transition.before transition.inputs transition.effects transition.after := by
  cases run with
  | step run inputs stepped => exact ⟨run, rfl, rule_of_step stepped⟩

theorem of_suffix {transition : Transition} {earlier : List Transition}
    (run : Run timings past state) (suffix : transition :: earlier <:+ past) :
    Run timings (transition :: earlier) transition.after := by
  induction run with
  | start => simp at suffix
  | step run inputs stepped induction =>
      rcases List.suffix_cons_iff.mp suffix with whole | within
      · cases whole
        exact .step run inputs stepped
      · exact induction within

theorem rule_of_mem {transition : Transition} (run : Run timings past state)
    (member : transition ∈ past) :
    Rule transition.before transition.inputs transition.effects transition.after := by
  rcases List.append_of_mem member with ⟨later, earlier, rfl⟩
  exact (run.of_suffix (List.suffix_append _ _)).of_cons.2.2

theorem timings_eq (run : Run timings past state) : state.timings = timings := by
  induction run using rule_induction with
  | start => rfl
  | step past before inputs effects after run whole rule induction =>
      cases rule <;> exact induction

theorem systemTimeSet_of_phase (run : Run timings past state)
    (follows : state.phase.followsTimeSetting = true) : state.systemTimeSet = true := by
  induction run using rule_induction with
  | start => cases follows
  | step past before inputs effects after run whole rule induction =>
      exact rule.followsTimeSetting induction follows

theorem driftTolerance_eq (run : Run timings past state) :
    state.driftAgreement.tolerance = Agreement.driftTolerance := by
  induction run using rule_induction with
  | start => rfl
  | step past before inputs effects after run whole rule induction =>
      cases rule <;> exact induction

theorem errorTolerance_eq (run : Run timings past state) :
    state.errorAgreement.tolerance = Agreement.errorTolerance := by
  induction run using rule_induction with
  | start => rfl
  | step past before inputs effects after run whole rule induction =>
      cases rule <;> exact induction

end Run

/-! ## Runs from what they are told -/

/-- The run that is told `inputs`, newest first, if no step of it meets an overflow. -/
def follow? (timings : Timings) :
    (inputs : List Inputs) → Option (List Transition × State)
  | [] => some ([], .initial timings)
  | inputs :: earlier =>
      match follow? timings earlier with
      | none => none
      | some (past, state) =>
          match step state inputs with
          | .ok taken =>
              some (⟨state, inputs, taken.effects, taken.state⟩ :: past, taken.state)
          | .error _ => none

theorem run_of_follow? {timings : Timings} {inputs : List Inputs} {past : List Transition}
    {state : State} (followed : follow? timings inputs = some (past, state)) :
    Run timings past state := by
  induction inputs generalizing past state with
  | nil =>
      cases followed
      exact .start
  | cons newest earlier induction =>
      unfold follow? at followed
      split at followed
      · cases followed
      · rename_i reached
        split at followed
        · rename_i stepped
          cases followed
          exact .step (induction reached) newest stepped
        · cases followed

end ClockDiscipline.Sync
