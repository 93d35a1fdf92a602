import ClockDiscipline.Proofs.Sync.Feedback
import ClockDiscipline.Proofs.Sync.Preparation

/-!
What a run asks for before what. The time is asked for at most once, and everything that
measures or steers the clock comes after it. What completes a synchronisation is asked for
by the steps that enter the wait for the next one, all of it together.

Two flags carry both facts over every loss of power, which forgets the phase: that the
time was asked for, and that the pseudo pulses run.
-/

namespace ClockDiscipline.Sync

namespace Effect

def requestsTime : Effect → Bool
  | requestTimeSet => true
  | _ => false

def needsTime : Effect → Bool
  | startDrift => true
  | finishDrift => true
  | startError => true
  | applyCompensation _ => true
  | _ => false

private theorem eq_of_requestsTime {effect : Effect}
    (requests : effect.requestsTime = true) : effect = requestTimeSet := by
  cases effect with
  | requestTimeSet => rfl
  | _ => cases requests

end Effect

def Transition.EntersPeriod (transition : Transition) : Prop :=
  transition.before.phase ≠ .waitForNextSync ∧ transition.after.phase = .waitForNextSync

instance : DecidablePred Transition.EntersPeriod :=
  fun _ => inferInstanceAs (Decidable (_ ∧ _))

/-! ## One step -/

namespace Rule

variable {before after : State} {inputs : Inputs} {effects : List Effect}

private theorem countP_requestsTime (rule : Rule before inputs effects after) :
    effects.countP Effect.requestsTime + before.systemTimeSet.toNat =
      after.systemTimeSet.toNat := by
  cases rule with
  | requestTime powered phase due unset => simp [unset, Effect.requestsTime]
  | synchronise =>
      cases running : before.pseudoPulseRunning <;>
        simp [State.synchronisationEffects, running, Effect.requestsTime]
  | _ => simp [Effect.requestsTime]

private theorem systemTimeSet_of_needsTime {effect : Effect}
    (rule : Rule before inputs effects after)
    (kept : before.phase.followsTimeSetting = true → before.systemTimeSet = true)
    (member : effect ∈ effects) (needs : effect.needsTime = true) :
    before.systemTimeSet = true := by
  cases effect with
  | startDrift =>
      rcases rule.of_startDrift member with ⟨-, set⟩ | phase | phase
      · exact set
      · exact kept (by rw [phase]; rfl)
      · exact kept (by rw [phase]; rfl)
  | finishDrift =>
      rcases rule.of_finishDrift member with ⟨-, -, phase, -⟩
      exact kept (by rw [phase]; rfl)
  | startError =>
      rcases rule.of_startError member with ⟨-, -, ⟨phase, -⟩ | phase⟩
      · exact kept (by rw [phase]; rfl)
      · exact kept (by rw [phase]; rfl)
  | applyCompensation =>
      rcases rule.of_applyCompensation member with ⟨error, -, phase, -⟩
      exact kept (by rw [phase]; rfl)
  | _ => cases needs

private theorem entersPeriod_iff (rule : Rule before inputs effects after) :
    Transition.EntersPeriod ⟨before, inputs, effects, after⟩ ↔
      Transition.Completes ⟨before, inputs, effects, after⟩ := by
  rw [Transition.completes_iff]
  constructor
  · rintro ⟨outside, enters⟩
    cases rule with
    | synchronise => exact ⟨_, List.mem_cons_self⟩
    | wait => exact absurd enters outside
    | _ => simp_all
  · rintro ⟨adjustment, applies⟩
    rcases rule.of_applyCompensation applies with ⟨error, -, phase, -, -, -, leads, -⟩
    exact ⟨by simp [phase], leads⟩

private theorem entersPeriod_cases (rule : Rule before inputs effects after) :
    (∃ error, Transition.EntersPeriod ⟨before, inputs, effects, after⟩ ∧
      effects = before.synchronisationEffects inputs.wallTime error ∧
      after.pseudoPulseRunning = true) ∨
    ¬Transition.EntersPeriod ⟨before, inputs, effects, after⟩ ∧
      (∀ effect ∈ effects, effect.isForCompletion = false) ∧
      after.pseudoPulseRunning = before.pseudoPulseRunning := by
  rw [rule.entersPeriod_iff, Transition.completes_iff]
  rcases rule.completion_cases with ⟨error, asked, -, running⟩ | ⟨elsewhere, running⟩
  · have applies : .applyCompensation (.ofRate (before.compensated error).total) ∈
        effects :=
      asked ▸ List.mem_cons_self
    exact .inl ⟨error, ⟨_, applies⟩, asked, running⟩
  · refine .inr ⟨?_, elsewhere, running⟩
    rintro ⟨adjustment, applies⟩
    cases elsewhere _ applies

end Rule

/-! ## All steps of a run -/

/-- The effects of a run come in this order, whatever it is told. -/
structure AsksInOrder (past : List Transition) : Prop where
  once : (past.flatMap Transition.effects).countP Effect.requestsTime ≤ 1
  timeFirst : ∀ transition earlier, transition :: earlier <:+ past →
    ∀ effect ∈ transition.effects, effect.needsTime = true →
      ∃ asking ∈ earlier, .requestTimeSet ∈ asking.effects
  /-- The pseudo pulses are started on the first entry, in the midst of what every entry
  asks for. -/
  together : ∀ transition earlier, transition :: earlier <:+ past →
    transition.EntersPeriod →
    ∃ adjustment lastSynchronised error, transition.effects =
      [.applyCompensation adjustment] ++
        (if ∃ entering ∈ earlier, entering.EntersPeriod then []
          else [.startPseudoPulse]) ++
        [.persistHardwareClock, .publishStatus lastSynchronised error]
  elsewhere : ∀ transition ∈ past, ¬transition.EntersPeriod →
    ∀ effect ∈ transition.effects, effect.isForCompletion = false
  dark : ∀ transition ∈ past, transition.inputs.receiverPower = false →
    transition.effects = []

namespace Run

variable {timings : Timings} {past : List Transition} {state : State}

private theorem countP_requestsTime (run : Run timings past state) :
    (past.flatMap Transition.effects).countP Effect.requestsTime =
      state.systemTimeSet.toNat := by
  induction run using rule_induction with
  | start => rfl
  | step past before inputs effects after run whole rule induction =>
      rw [List.flatMap_cons, List.countP_append, induction]
      exact rule.countP_requestsTime

private theorem exists_asking (run : Run timings past state)
    (set : state.systemTimeSet = true) :
    ∃ asking ∈ past, .requestTimeSet ∈ asking.effects := by
  have some : 0 < (past.flatMap Transition.effects).countP Effect.requestsTime := by
    rw [run.countP_requestsTime, set]
    exact Nat.one_pos
  rcases List.countP_pos_iff.mp some with ⟨effect, member, requests⟩
  rw [Effect.eq_of_requestsTime requests] at member
  exact List.mem_flatMap.mp member

private theorem pseudoPulseRunning_iff (run : Run timings past state) :
    state.pseudoPulseRunning = true ↔ ∃ entering ∈ past, entering.EntersPeriod := by
  induction run using rule_induction with
  | start => simp [State.initial]
  | step past before inputs effects after run whole rule induction =>
      rw [List.exists_mem_cons_iff]
      rcases rule.entersPeriod_cases with
        ⟨error, enters, -, running⟩ | ⟨passes, -, running⟩
      · exact iff_of_true running (.inl enters)
      · rw [running, induction, or_iff_right passes]

/-- Every run asks for the time once and for everything else in order. -/
theorem asksInOrder (run : Run timings past state) : AsksInOrder past := by
  constructor
  case once =>
    rw [run.countP_requestsTime]
    exact Bool.toNat_le _
  case timeFirst =>
    intro transition earlier suffix effect member needs
    rcases (run.of_suffix suffix).of_cons with ⟨before, -, rule⟩
    apply before.exists_asking
    exact rule.systemTimeSet_of_needsTime before.systemTimeSet_of_phase member needs
  case together =>
    intro transition earlier suffix enters
    rcases (run.of_suffix suffix).of_cons with ⟨before, -, rule⟩
    rcases rule.entersPeriod_cases with ⟨error, -, asked, -⟩ | ⟨passes, -⟩
    · refine ⟨.ofRate (transition.before.compensated error).total,
        transition.inputs.wallTime, error, ?_⟩
      rw [asked, State.synchronisationEffects]
      simp only [before.pseudoPulseRunning_iff]
    · exact absurd enters passes
  case elsewhere =>
    intro transition member passes
    rcases (run.rule_of_mem member).entersPeriod_cases with
      ⟨error, enters, -⟩ | ⟨-, elsewhere, -⟩
    · exact absurd enters passes
    · exact elsewhere
  case dark => exact fun transition member dark =>
    ((run.rule_of_mem member).of_dark dark).1

end Run

/-- Two synchronisations. Power is lost in the wait for the time, and once more while a
drift is measured. -/
def interruptedSetting : List Inputs :=
  let idle (number : Nat) := List.replicate number (told none none)
  let windows (rate : Float) :=
    (List.replicate 5 [told none none, told (some (.ok rate)) none]).flatten
  let measurements (error : Float) := List.replicate 5 (told none (some error))
  let dark (instant : Nat) := { told none none instant with receiverPower := false }
  let steps := idle 6 ++ [dark] ++ idle 7 ++ [dark] ++ idle 6 ++ windows 0.00001 ++
    measurements 0.01 ++ idle 3 ++ windows 0.00002 ++ measurements 0.02
  (steps.mapIdx fun index inputs => inputs (40 * index)).reverse

theorem asksInOrder_of_interruptedSetting :
    ∃ past state, follow? .standard interruptedSetting = some (past, state) ∧
      (∃ transition ∈ past, transition.before.phase = .setSystemTime ∧
        transition.inputs.receiverPower = false) ∧
      (∃ transition ∈ past, transition.before.phase = .measureDrift ∧
        transition.inputs.receiverPower = false) ∧
      past.countP (fun transition => transition.EntersPeriod) = 2 ∧ AsksInOrder past := by
  have reads : ((follow? .standard interruptedSetting).map fun run =>
      (decide (∃ transition ∈ run.1, transition.before.phase = .setSystemTime ∧
        transition.inputs.receiverPower = false),
      decide (∃ transition ∈ run.1, transition.before.phase = .measureDrift ∧
        transition.inputs.receiverPower = false),
      run.1.countP fun transition => transition.EntersPeriod)) = some (true, true,
      2) := by
    decide +kernel
  rcases Option.map_eq_some_iff.mp reads with ⟨⟨past, state⟩, followed, readOff⟩
  simp only [Prod.mk.injEq, decide_eq_true_eq] at readOff
  exact ⟨past, state, followed, readOff.1, readOff.2.1, readOff.2.2,
    (run_of_follow? followed).asksInOrder⟩

end ClockDiscipline.Sync
