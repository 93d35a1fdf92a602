import ClockDiscipline.Proofs.Compensation
import ClockDiscipline.Proofs.Sync.Synchronisation

/-!
What the compensation remembers. A completed synchronisation feeds the means of its own
cycle back into the rates that the one before has left. Nothing else touches these rates,
whatever was measured and given up in between.
-/

namespace ClockDiscipline

namespace Sync

/-! ## Completed synchronisations -/

def Effect.isForCompletion : Effect → Bool
  | .applyCompensation _ => true
  | .persistHardwareClock => true
  | .startPseudoPulse => true
  | .publishStatus _ _ => true
  | _ => false

theorem Rule.completion_cases {before after : State} {inputs : Inputs}
    {effects : List Effect} (rule : Rule before inputs effects after) :
    (∃ error, effects = before.synchronisationEffects inputs.wallTime error ∧
      after.compensation = before.compensated error ∧ after.pseudoPulseRunning = true) ∨
    (∀ effect ∈ effects, effect.isForCompletion = false) ∧
      after.pseudoPulseRunning = before.pseudoPulseRunning := by
  cases rule with
  | synchronise powered phase error => exact .inl ⟨_, rfl, rfl, rfl⟩
  | _ => exact .inr ⟨by simp [Effect.isForCompletion], rfl⟩

instance : DecidablePred Transition.EntersDrift :=
  fun _ => inferInstanceAs (Decidable (_ ∧ _))

def sinceEntry (past : List Transition) : List Transition :=
  past.takeWhile fun transition => ¬transition.EntersDrift

/-- The means of the drift rates and of the errors consumed since the latest entry. -/
def latestMeans (past : List Transition) : Float × Float :=
  (Agreement.meanOf (rates (sinceEntry past)),
    Agreement.meanOf (errors (sinceEntry past)))

def Transition.Completes (transition : Transition) : Prop := transition.adjustments ≠ []

instance : DecidablePred Transition.Completes :=
  fun transition => inferInstanceAs (Decidable (transition.adjustments ≠ []))

/-- The means of all completed synchronisations, oldest first. -/
def completedMeans : (past : List Transition) → List (Float × Float)
  | [] => []
  | newest :: earlier =>
      completedMeans earlier ++
        if newest.Completes then [latestMeans (newest :: earlier)] else []

theorem Transition.completes_iff {transition : Transition} :
    transition.Completes ↔
      ∃ adjustment, .applyCompensation adjustment ∈ transition.effects := by
  simp only [← mem_adjustments_iff]
  exact ⟨List.exists_mem_of_ne_nil _, fun ⟨_, member⟩ => List.ne_nil_of_mem member⟩

private theorem sinceEntry_append {since older : List Transition} {entry : Transition}
    (entered : entry.EntersDrift)
    (latest : ∀ transition ∈ since, ¬transition.EntersDrift) :
    sinceEntry (since ++ entry :: older) = since := by
  rw [sinceEntry, List.takeWhile_append_of_pos (by simpa using latest),
    List.takeWhile_cons_of_neg (by simpa using entered), List.append_nil]

namespace Cycle.Holds

variable {cycle : Cycle} {period : Nat}

private theorem rates_sinceEntry (holds : cycle.Holds period) :
    Sync.rates cycle.sinceEntry = cycle.rates := by
  have none : (cycle.completing :: cycle.errorStay).filterMap Transition.consumedRate =
      [] := by
    apply List.filterMap_eq_nil_iff.mpr
    intro transition member
    simp [Transition.consumedRate, Transition.consumedDrift,
      holds.inError transition member]
  rw [Sync.rates, sinceEntry, List.filterMap_append, none, List.nil_append]
  rfl

private theorem errors_sinceEntry (holds : cycle.Holds period) :
    Sync.errors cycle.sinceEntry = cycle.errors := by
  have none : (cycle.passing :: cycle.driftStay).filterMap Transition.consumedError =
      [] := by
    apply List.filterMap_eq_nil_iff.mpr
    intro transition member
    simp [Transition.consumedError, holds.inDrift transition member]
  rw [Sync.errors, sinceEntry, List.filterMap_append, none, List.append_nil]
  rfl

end Cycle.Holds

/-! ## One step -/

namespace Rule

variable {before after : State} {inputs : Inputs} {effects : List Effect}

private theorem timings_eq (rule : Rule before inputs effects after) :
    after.timings = before.timings := by
  cases rule <;> rfl

theorem memory_eq (rule : Rule before inputs effects after)
    (silent : ∀ adjustment, .applyCompensation adjustment ∉ effects) :
    after.compensation.memory = before.compensation.memory := by
  cases rule with
  | synchronise => simp [State.synchronisationEffects] at silent
  | _ => rfl

end Rule

/-- A completed synchronisation feeds back the means of the latest stays. -/
theorem Run.compensation_of_completes {timings : Timings} {past : List Transition}
    {before after : State} {inputs : Inputs} {effects : List Effect}
    {adjustment : Adjustment}
    (run : Run timings past before) (rule : Rule before inputs effects after)
    (applies : .applyCompensation adjustment ∈ effects) :
    after.compensation = before.compensation.feed (Float.ofNat timings.syncPeriod)
      (latestMeans (⟨before, inputs, effects, after⟩ :: past)) := by
  rcases rule.of_applyCompensation applies with
    ⟨error, powered, phase, result, accepted, -, leads, compensation⟩
  rcases run.errorStay phase with ⟨entry, driftStay, passing, stay, older, rfl, soFar⟩
  let cycle : Cycle := ⟨entry, driftStay, passing, stay, ⟨before, inputs, effects, after⟩⟩
  have holds : cycle.Holds before.timings.syncPeriod :=
    (Cycle.holds_of_errorStay effects after soFar powered phase result accepted leads
      compensation).1
  have since : sinceEntry (⟨before, inputs, effects, after⟩ ::
      (stay ++ passing :: (driftStay ++ entry :: older))) = cycle.sinceEntry := by
    have whole : ⟨before, inputs, effects, after⟩ ::
        (stay ++ passing :: (driftStay ++ entry :: older)) =
          cycle.sinceEntry ++ entry :: older := by
      simp [cycle, Cycle.sinceEntry]
    rw [whole]
    exact sinceEntry_append holds.entered holds.latest
  rw [latestMeans, since, holds.rates_sinceEntry, holds.errors_sinceEntry,
    soFar.compensation, ← run.timings_eq]
  exact holds.updated

/-! ## All steps -/

/-- What is remembered comes of the completed synchronisations alone. -/
structure RemembersCompleted (timings : Timings) (past : List Transition)
    (state : State) : Prop where
  memory_eq : state.compensation.memory =
    ((completedMeans past).foldl (Compensation.feed (Float.ofNat timings.syncPeriod))
      .zero).memory
  timings_eq : state.timings = timings
  completed : ∀ transition earlier, transition :: earlier <:+ past →
    transition.Completes →
    transition.after.compensation = transition.before.compensation.feed
      (Float.ofNat timings.syncPeriod) (latestMeans (transition :: earlier))
  kept : ∀ transition ∈ past, ¬transition.Completes →
    transition.after.compensation.memory = transition.before.compensation.memory
  timingsKept : ∀ transition ∈ past, transition.after.timings = transition.before.timings

theorem Run.remembersCompleted {timings : Timings} {past : List Transition}
    {state : State}
    (run : Run timings past state) : RemembersCompleted timings past state := by
  induction run using rule_induction with
  | start => exact ⟨rfl, rfl, by simp, by simp, by simp⟩
  | step past before inputs effects after run whole rule induction =>
      let newest : Transition := ⟨before, inputs, effects, after⟩
      have fed (completes : newest.Completes) :
          after.compensation = before.compensation.feed (Float.ofNat timings.syncPeriod)
            (latestMeans (newest :: past)) := by
        rcases Transition.completes_iff.mp completes with ⟨adjustment, applies⟩
        exact run.compensation_of_completes rule applies
      have silent (incomplete : ¬newest.Completes) :
          after.compensation.memory = before.compensation.memory := by
        apply rule.memory_eq
        intro adjustment applies
        exact incomplete (Transition.completes_iff.mpr ⟨adjustment, applies⟩)
      constructor
      case memory_eq =>
        by_cases completes : newest.Completes
        · rw [completedMeans, if_pos completes, List.foldl_append, fed completes]
          exact Compensation.memory_feed_congr _ _ induction.memory_eq
        · rw [completedMeans, if_neg completes, List.append_nil, silent completes]
          exact induction.memory_eq
      case timings_eq => exact rule.timings_eq.trans induction.timings_eq
      case completed =>
        intro transition earlier suffix completes
        rcases List.suffix_cons_iff.mp suffix with same | within
        · cases same
          exact fed completes
        · exact induction.completed transition earlier within completes
      case kept => exact List.forall_mem_cons.mpr ⟨silent, induction.kept⟩
      case timingsKept =>
        exact List.forall_mem_cons.mpr ⟨rule.timings_eq, induction.timingsKept⟩

/-- Two synchronisations, and between them a cycle that loses power once its rates agree.
Every delay is over by the next step. -/
def interruptedCycle : List Inputs :=
  let idle (number : Nat) := List.replicate number (told none none)
  let windows (rate : Float) :=
    (List.replicate 5 [told none none, told (some (.ok rate)) none]).flatten
  let measurements (error : Float) := List.replicate 5 (told none (some error))
  let dark (instant : Nat) := { told none none instant with receiverPower := false }
  let steps :=
    idle 8 ++ windows 0.00001 ++ measurements 0.01 ++ idle 3 ++ windows 0.00003 ++
    [dark] ++ idle 6 ++ windows 0.00002 ++ measurements 0.02
  (steps.mapIdx fun index inputs => inputs (40 * index)).reverse

theorem remembersCompleted_of_interruptedCycle :
    ∃ past state, follow? .standard interruptedCycle = some (past, state) ∧
      (completedMeans past).length = 2 ∧
      (∃ transition ∈ past, transition.before.phase = .measureError ∧
        transition.inputs.receiverPower = false) ∧
      RemembersCompleted .standard past state := by
  have follows : ((follow? .standard interruptedCycle).map fun run =>
      ((completedMeans run.1).length, run.1.any fun transition =>
        decide (transition.before.phase = .measureError ∧
          transition.inputs.receiverPower = false))) = some (2, true) := by
    decide +kernel
  rcases Option.map_eq_some_iff.mp follows with ⟨⟨past, state⟩, followed, reads⟩
  simp only [Prod.mk.injEq, List.any_eq_true, decide_eq_true_eq] at reads
  exact ⟨past, state, followed, reads.1, reads.2,
    (run_of_follow? followed).remembersCompleted⟩

end Sync

end ClockDiscipline
