import ClockDiscipline.Proofs.Sync.Synchronisation

/-!
How long the phases last. All of them share one deadline. It is that of the step which
entered the present phase, or which opened the present drift window, whatever the clock
jumps over. Only the wait for a fix that follows a period inherits its deadline, and that
one has passed.
-/

namespace ClockDiscipline.Sync

def Forward (past : List Transition) : Prop :=
  past.Pairwise fun later earlier => earlier.inputs.now ≤ later.inputs.now

/-! ## Timed phases -/

namespace Phase

def isTimed : Phase → Bool
  | .init1 => true
  | .init2 => true
  | .init3 => true
  | .waitForFirstFix => true
  | .settle1 => true
  | .settle2 => true
  | .waitForNextSync => true
  | _ => false

def successors : Phase → List Phase
  | .init1 => [.init2]
  | .init2 => [.init3]
  | .init3 => [.waitForFirstFix]
  | .waitForFirstFix => [.settle1]
  | .settle1 => [.setSystemTime, .measureDrift]
  | .settle2 => [.measureDrift]
  | .waitForNextSync => [.waitForFirstFix]
  | _ => []

end Phase

namespace Transition

/-- The time that the phase lasts to which `entering` has led. After a period the wait for
a fix has none. -/
def delay? (entering : Transition) (timings : Timings) : Option Nat :=
  match entering.after.phase with
  | .init1 => some timings.initStepDelay
  | .init2 => some timings.initStepDelay
  | .init3 => some timings.initStepDelay
  | .waitForFirstFix =>
      if entering.before.phase = .init3 then some timings.initStepDelay else none
  | .settle1 => some timings.firstFixSettle
  | .settle2 => some timings.timeSetSettle
  | .waitForNextSync => some timings.syncPeriod
  | _ => none

/-- A step that is told `inputs` finds the time over since `entering`, and the fix that
the phase may wait for. -/
structure Releases (entering : Transition) (timings : Timings) (inputs : Inputs) :
    Prop where
  timeOver : ∀ delay, entering.delay? timings = some delay →
    entering.inputs.now + delay < inputs.now
  hasFix : entering.after.phase = .waitForFirstFix → inputs.hasFix = true

end Transition

namespace Rule

variable {before after : State} {inputs : Inputs} {effects : List Effect}

private theorem isReady_of_leaves (rule : Rule before inputs effects after)
    (powered : inputs.receiverPower = true) (leaves : after.phase ≠ before.phase) :
    before.isReady inputs = true := by
  cases rule with
  | openFirstWindow _ phase due =>
      rcases phase with ⟨phase, -⟩ | phase <;> simp [State.isReady, phase, due]
  | _ => simp_all [State.isReady]

private theorem leaves_of_isReady (rule : Rule before inputs effects after)
    (powered : inputs.receiverPower = true) (timed : before.phase.isTimed = true)
    (ready : before.isReady inputs = true) :
    after.phase ≠ before.phase ∧ after.phase ∈ before.phase.successors := by
  cases rule with
  | openFirstWindow _ phase =>
      rcases phase with ⟨phase, -⟩ | phase <;> simp [phase, Phase.successors]
  | _ => simp_all [Phase.isTimed, Phase.successors]

private theorem eq_of_stays (rule : Rule before inputs effects after)
    (timed : before.phase.isTimed = true) (stays : after.phase = before.phase) :
    inputs.receiverPower = true ∧ before.isReady inputs = false ∧ after = before := by
  cases rule with
  | wait powered unready => exact ⟨powered, unready, rfl⟩
  | losePower =>
      have unpowered : before.phase = .waitForPower := stays.symm
      simp [unpowered, Phase.isTimed] at timed
  | openFirstWindow _ phase =>
      rcases phase with ⟨phase, -⟩ | phase <;> simp [phase] at stays
  | _ => simp_all [Phase.isTimed]

end Rule

def Transition.SetsDeadline (entering : Transition) (timings : Timings) (deadline : Nat) :
    Prop :=
  (∃ delay,
    entering.delay? timings = some delay ∧ deadline = entering.inputs.now + delay) ∨
    entering.delay? timings = none ∧ deadline < entering.inputs.now

private theorem Rule.setsDeadline {before after : State} {inputs : Inputs}
    {effects : List Effect}
    (rule : Rule before inputs effects after) (timed : after.phase.isTimed = true)
    (enters : before.phase ≠ after.phase) :
    Transition.SetsDeadline
      ⟨before, inputs, effects, after⟩ before.timings after.deadline := by
  cases rule with
  | wait => exact absurd rfl enters
  | losePower => cases timed
  | requestTime => cases timed
  | openFirstWindow => cases timed
  | agree => cases timed
  | closeWindow _ phase => simp [phase, Phase.isTimed] at timed
  | rejectWindow _ phase => simp [phase, Phase.isTimed] at timed
  | disagree _ phase => simp [phase, Phase.isTimed] at timed
  | measureAgain _ phase => simp [phase, Phase.isTimed] at timed
  | prepareThird _ phase => exact .inl ⟨_, by simp [Transition.delay?, phase], rfl⟩
  | periodOver _ phase due =>
      refine .inr ⟨by simp [Transition.delay?, phase], ?_⟩
      simpa [State.isDue] using due
  | _ => exact .inl ⟨_, rfl, rfl⟩

/-- What has come of a timed phase since `entering`. -/
structure TimedStay (timings : Timings) (entering : Transition) (stay : List Transition)
    (state : State) : Prop where
  enters : entering.before.phase ≠ state.phase
  leads : entering.after.phase = state.phase
  within : ∀ transition ∈ stay, transition.StaysIn state.phase
  unreleased : ∀ transition ∈ stay, ¬entering.Releases timings transition.inputs
  deadline : entering.SetsDeadline timings state.deadline

namespace TimedStay

variable {timings : Timings} {entering : Transition} {stay : List Transition}
  {before after : State} {inputs : Inputs} {effects : List Effect}

private theorem isDue_iff (soFar : TimedStay timings entering stay before)
    (forward : entering.inputs.now ≤ inputs.now) :
    before.isDue inputs.now = true ↔ ∀ delay, entering.delay? timings = some delay →
      entering.inputs.now + delay < inputs.now := by
  rw [State.isDue, decide_eq_true_iff]
  rcases soFar.deadline with ⟨delay, lasts, deadline⟩ | ⟨endless, passed⟩
  · rw [lasts, deadline]
    simp
  · have behind : before.deadline < inputs.now := by omega
    simp [endless, behind]

private theorem isReady_iff (soFar : TimedStay timings entering stay before)
    (timed : before.phase.isTimed = true) (forward : entering.inputs.now ≤ inputs.now) :
    before.isReady inputs = true ↔ entering.Releases timings inputs := by
  have ready : before.isReady inputs = true ↔ before.isDue inputs.now = true ∧
      (before.phase = .waitForFirstFix → inputs.hasFix = true) := by
    cases phase : before.phase <;> simp [State.isReady, phase, Phase.isTimed] at timed ⊢
  rw [ready, soFar.isDue_iff forward, ← soFar.leads]
  constructor
  · exact fun both => ⟨both.1, both.2⟩
  · exact fun releases => ⟨releases.timeOver, releases.hasFix⟩

private theorem of_rule (soFar : TimedStay timings entering stay before)
    (rule : Rule before inputs effects after) (timed : after.phase.isTimed = true)
    (stays : after.phase = before.phase) (forward : entering.inputs.now ≤ inputs.now) :
    TimedStay timings entering (⟨before, inputs, effects, after⟩ :: stay) after := by
  rw [stays] at timed
  rcases rule.eq_of_stays timed stays with ⟨powered, unready, rfl⟩
  refine ⟨soFar.enters, soFar.leads, ?_, ?_, soFar.deadline⟩
  · exact List.forall_mem_cons.mpr ⟨⟨powered, rfl, rfl⟩, soFar.within⟩
  · refine List.forall_mem_cons.mpr ⟨fun releases => ?_, soFar.unreleased⟩
    rw [(soFar.isReady_iff timed forward).mpr releases] at unready
    cases unready

end TimedStay

private theorem Run.timedStay {timings : Timings} {past : List Transition} {state : State}
    (run : Run timings past state) (forward : Forward past)
    (timed : state.phase.isTimed = true) :
    ∃ stay entering older, past = stay ++ entering :: older ∧
      TimedStay timings entering stay state := by
  induction run using rule_induction with
  | start => cases timed
  | step past before inputs effects after run whole rule induction =>
      rcases List.pairwise_cons.mp forward with ⟨latest, forward⟩
      by_cases stays : after.phase = before.phase
      · rcases induction forward (stays ▸ timed) with ⟨stay, entering, older, rfl, soFar⟩
        exact ⟨_ :: stay, entering, older, rfl,
          soFar.of_rule rule timed stays (latest entering (by simp))⟩
      · refine ⟨[], _, past, rfl, Ne.symm stays, rfl, by simp, by simp, ?_⟩
        rw [← run.timings_eq]
        exact rule.setsDeadline timed (Ne.symm stays)

/-! ## Drift windows -/

/-- What has come of a drift window since `opening`. -/
structure WindowStay (timings : Timings) (opening : Transition)
    (waiting : List Transition)
    (state : State) : Prop where
  opens : .startDrift ∈ opening.effects
  within : ∀ transition ∈ waiting, transition.StaysIn .measureDrift
  latest : ∀ transition ∈ waiting, .startDrift ∉ transition.effects
  deadline : state.deadline = opening.inputs.now + timings.driftWindow
  awaiting_iff : state.awaitingDriftResult = true ↔
    ∃ transition ∈ waiting,
      opening.inputs.now + timings.driftWindow < transition.inputs.now

namespace WindowStay

variable {timings : Timings} {opening : Transition} {waiting : List Transition}
  {before after : State} {inputs : Inputs} {effects : List Effect}

private theorem of_rule (soFar : WindowStay timings opening waiting before)
    (phase : before.phase = .measureDrift) (rule : Rule before inputs effects after)
    (stays : after.phase = .measureDrift) (starts : .startDrift ∉ effects) :
    WindowStay timings opening (⟨before, inputs, effects, after⟩ :: waiting) after := by
  have due : before.isDue inputs.now = true ↔
      opening.inputs.now + timings.driftWindow < inputs.now := by
    rw [State.isDue, decide_eq_true_iff, soFar.deadline]
  cases rule with
  | wait powered unready =>
      refine ⟨soFar.opens,
        List.forall_mem_cons.mpr ⟨⟨powered, phase, phase⟩, soFar.within⟩,
        List.forall_mem_cons.mpr ⟨starts, soFar.latest⟩, soFar.deadline, ?_⟩
      -- A window that is still open is not over, so the step adds nothing to what has
      -- been before.
      have late : opening.inputs.now + timings.driftWindow < inputs.now →
          before.awaitingDriftResult = true := by
        intro newly
        by_contra opened
        simp [State.isReady, phase, opened, due.mpr newly] at unready
      rw [List.exists_mem_cons_iff, ← soFar.awaiting_iff]
      exact ⟨.inr, fun reached => reached.elim late id⟩
  | closeWindow powered _ opened isDue =>
      refine ⟨soFar.opens,
        List.forall_mem_cons.mpr ⟨⟨powered, phase, phase⟩, soFar.within⟩,
        List.forall_mem_cons.mpr ⟨starts, soFar.latest⟩, soFar.deadline, ?_⟩
      exact ⟨fun _ => ⟨_, List.mem_cons_self, due.mp isDue⟩, fun _ => rfl⟩
  | losePower => cases stays
  | agree => cases stays
  | rejectWindow => simp at starts
  | disagree => simp at starts
  | _ => simp_all

private theorem of_start (rule : Rule before inputs effects after)
    (starts : .startDrift ∈ effects) :
    WindowStay before.timings ⟨before, inputs, effects, after⟩ [] after := by
  cases rule with
  | synchronise => simp [State.synchronisationEffects] at starts
  | openFirstWindow => exact ⟨starts, by simp, by simp, rfl, by simp⟩
  | rejectWindow => exact ⟨starts, by simp, by simp, rfl, by simp⟩
  | disagree => exact ⟨starts, by simp, by simp, rfl, by simp⟩
  | _ => simp at starts

end WindowStay

private theorem Run.windowStay {timings : Timings} {past : List Transition}
    {state : State} (run : Run timings past state) (phase : state.phase = .measureDrift) :
    ∃ waiting opening older, past = waiting ++ opening :: older ∧
      WindowStay timings opening waiting state := by
  induction run using rule_induction with
  | start => cases phase
  | step past before inputs effects after run whole rule induction =>
      by_cases starts : .startDrift ∈ effects
      · refine ⟨[], _, past, rfl, ?_⟩
        rw [← run.timings_eq]
        exact .of_start rule starts
      · have stays : before.phase = .measureDrift := by
          cases rule with
          | losePower => cases phase
          | openFirstWindow => simp at starts
          | _ => simp_all
        rcases induction stays with ⟨waiting, opening, older, rfl, soFar⟩
        exact ⟨_ :: waiting, opening, older, rfl, soFar.of_rule stays rule phase starts⟩

private theorem Rule.finishDrift_mem_iff {before after : State} {inputs : Inputs}
    {effects : List Effect}
    (rule : Rule before inputs effects after) : .finishDrift ∈ effects ↔
      before.phase = .measureDrift ∧ inputs.receiverPower = true ∧
        before.isDue inputs.now = true ∧ before.awaitingDriftResult = false := by
  cases rule with
  | synchronise => simp_all [State.synchronisationEffects]
  | wait powered unready =>
      simp only [List.not_mem_nil, false_iff, not_and]
      intro phase _ due opened
      simp [State.isReady, phase, due, opened] at unready
  | openFirstWindow powered phase =>
      rcases phase with ⟨phase, -⟩ | phase <;> simp [phase]
  | _ => simp_all

/-! ## All steps of a run -/

/-- A step in a timed phase: the stay there since `entering`, and whether the step ends
it. -/
structure Transition.KeepsTime (timings : Timings) (transition entering : Transition)
    (stay : List Transition) : Prop where
  enters : entering.before.phase ≠ transition.before.phase
  leads : entering.after.phase = transition.before.phase
  within : ∀ earlier ∈ stay, earlier.StaysIn transition.before.phase
  first : ∀ earlier ∈ stay, ¬entering.Releases timings earlier.inputs
  leaves_iff : transition.inputs.receiverPower = true →
    (transition.after.phase ≠ transition.before.phase ↔
      entering.Releases timings transition.inputs)
  successor : transition.inputs.receiverPower = true →
    transition.after.phase ≠ transition.before.phase →
      transition.after.phase ∈ transition.before.phase.successors
  dark : transition.inputs.receiverPower = false → transition.after.phase = .waitForPower

/-- A step in the drift phase: the steps since its window was opened with `opening`, and
whether the step closes it. -/
structure Transition.ClosesInTime (timings : Timings) (transition opening : Transition)
    (waiting : List Transition) : Prop where
  opens : .startDrift ∈ opening.effects
  latest : ∀ earlier ∈ waiting, .startDrift ∉ earlier.effects
  within : ∀ earlier ∈ waiting, earlier.StaysIn .measureDrift
  finishes_iff : .finishDrift ∈ transition.effects ↔
    transition.inputs.receiverPower = true ∧
      opening.inputs.now + timings.driftWindow < transition.inputs.now ∧
      ∀ earlier ∈ waiting, ¬opening.inputs.now + timings.driftWindow < earlier.inputs.now

private theorem Rule.phase_of_dark {before after : State} {inputs : Inputs}
    {effects : List Effect}
    (rule : Rule before inputs effects after) (dark : inputs.receiverPower = false) :
    after.phase = .waitForPower := by
  cases rule <;> simp_all

/-- With a clock that never runs backward every timed phase lasts as long as its delay,
and is left at the first step that finds it over. The same goes for drift windows. -/
theorem Run.keepsDelays {timings : Timings} {past : List Transition} {state : State}
    (run : Run timings past state) (forward : Forward past) :
    ∀ transition earlier, transition :: earlier <:+ past →
      (transition.before.phase.isTimed = true →
        ∃ stay entering older, earlier = stay ++ entering :: older ∧
          transition.KeepsTime timings entering stay) ∧
      (transition.before.phase = .measureDrift →
        ∃ waiting opening older, earlier = waiting ++ opening :: older ∧
          transition.ClosesInTime timings opening waiting) ∧
      (.finishDrift ∈ transition.effects → transition.before.phase = .measureDrift) := by
  intro transition earlier suffix
  rcases (run.of_suffix suffix).of_cons with ⟨before, -, rule⟩
  have forward : Forward (transition :: earlier) :=
    List.Pairwise.sublist suffix.sublist forward
  rcases List.pairwise_cons.mp forward with ⟨latest, forward⟩
  refine ⟨fun timed => ?_, fun phase => ?_,
    fun finishes => (rule.finishDrift_mem_iff.mp finishes).1⟩
  · rcases before.timedStay forward timed with ⟨stay, entering, older, rfl, soFar⟩
    have ready := soFar.isReady_iff timed (latest entering (by simp))
    refine ⟨stay, entering, older, rfl, soFar.enters, soFar.leads, soFar.within,
      soFar.unreleased, fun powered => ⟨?_, ?_⟩, fun powered leaves => ?_,
      rule.phase_of_dark⟩
    · exact fun leaves => ready.mp (rule.isReady_of_leaves powered leaves)
    · exact fun releases => (rule.leaves_of_isReady powered timed (ready.mpr releases)).1
    · exact (rule.leaves_of_isReady powered timed
        (rule.isReady_of_leaves powered leaves)).2
  · rcases before.windowStay phase with ⟨waiting, opening, older, rfl, soFar⟩
    refine ⟨waiting, opening, older, rfl, soFar.opens, soFar.latest, soFar.within, ?_⟩
    have unclosed : transition.before.awaitingDriftResult = false ↔
        ∀ earlier ∈ waiting,
          ¬opening.inputs.now + timings.driftWindow < earlier.inputs.now := by
      rw [← Bool.not_eq_true, soFar.awaiting_iff]
      simp
    rw [rule.finishDrift_mem_iff, ← unclosed, State.isDue, soFar.deadline,
      decide_eq_true_iff]
    exact ⟨fun finishes => finishes.2, fun finishes => ⟨phase, finishes⟩⟩

def secondCycle : List Inputs :=
  [told none none 104, told none none 103, told none none 102] ++ firstSynchronisation

theorem keepsDelays_of_secondCycle :
    ∃ past state, follow? .standard secondCycle = some (past, state) ∧ Forward past ∧
      (past.map fun transition => transition.before.phase).take 3 =
        [.settle1, .waitForFirstFix, .waitForNextSync] ∧
      ∀ transition earlier, transition :: earlier <:+ past →
        (transition.before.phase.isTimed = true →
          ∃ stay entering older, earlier = stay ++ entering :: older ∧
            transition.KeepsTime .standard entering stay) ∧
        (transition.before.phase = .measureDrift →
          ∃ waiting opening older, earlier = waiting ++ opening :: older ∧
            transition.ClosesInTime .standard opening waiting) ∧
        (.finishDrift ∈ transition.effects →
          transition.before.phase = .measureDrift) := by
  have reads : ((follow? .standard secondCycle).map fun run =>
      (run.1.map fun transition => transition.inputs.now,
        (run.1.map fun transition => transition.before.phase).take 3)) =
      some (secondCycle.map Inputs.now,
        [.settle1, .waitForFirstFix, .waitForNextSync]) := by
    decide +kernel
  rcases Option.map_eq_some_iff.mp reads with ⟨⟨past, state⟩, followed, readOff⟩
  rcases Prod.mk.inj readOff with ⟨instants, phases⟩
  have ordered : (secondCycle.map Inputs.now).Pairwise fun later earlier =>
      earlier ≤ later := by
    decide +kernel
  rw [← instants, List.pairwise_map] at ordered
  exact ⟨past, state, followed, ordered, phases,
    (run_of_follow? followed).keepsDelays ordered⟩

end ClockDiscipline.Sync
