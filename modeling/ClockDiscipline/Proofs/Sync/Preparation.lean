import ClockDiscipline.Proofs.Sync.Synchronisation

/-!
How the receiver is prepared. A run is cut into stretches by its steps without power. In
every stretch the four commands are sent in their order, each once, from the first on; the
phases from the wait for a fix on are reached only in a stretch that has sent all of them.
-/

namespace ClockDiscipline.Sync

/-! ## Commands -/

def Effect.command? : Effect → Option Nat
  | .sendInit index => some index
  | _ => none

def Transition.commands (transition : Transition) : List Nat :=
  transition.effects.filterMap Effect.command?

def commandsSent (past : List Transition) : List Nat :=
  past.reverse.flatMap Transition.commands

@[simp] theorem commandsSent_nil : commandsSent [] = [] := rfl

@[simp] theorem commandsSent_cons (transition : Transition) (past : List Transition) :
    commandsSent (transition :: past) = commandsSent past ++ transition.commands := by
  simp [commandsSent]

/-! ## Stretches of power -/

/-- The stretches between the steps without power, newest first. The latest one may be
empty. -/
def stretches (past : List Transition) : List (List Transition) :=
  past.splitOnP fun transition => !transition.inputs.receiverPower

private theorem stretches_of_dark {transition : Transition} (past : List Transition)
    (dark : transition.inputs.receiverPower = false) :
    stretches (transition :: past) = [] :: stretches past := by
  simp [stretches, List.splitOnP_cons_eq_if_modifyHead, dark]

private theorem stretches_of_powered {transition : Transition}
    {past latest : List Transition}
    {older : List (List Transition)} (powered : transition.inputs.receiverPower = true)
    (soFar : stretches past = latest :: older) :
    stretches (transition :: past) = (transition :: latest) :: older := by
  rw [stretches] at soFar
  simp [stretches, List.splitOnP_cons_eq_if_modifyHead, powered, soFar]

/-! ## One step -/

def Phase.commands : Phase → List Nat
  | .waitForPower => []
  | .init1 => [0]
  | .init2 => [0, 1]
  | .init3 => [0, 1, 2]
  | _ => [0, 1, 2, 3]

def Phase.isPrepared : Phase → Bool
  | .waitForPower => false
  | .init1 => false
  | .init2 => false
  | .init3 => false
  | _ => true

private theorem Phase.commands_prefix (phase : Phase) :
    phase.commands <+: [0, 1, 2, 3] := by
  cases phase <;> decide

private theorem Phase.commands_of_isPrepared {phase : Phase}
    (prepared : phase.isPrepared = true) :
    phase.commands = [0, 1, 2, 3] := by
  cases phase <;> simp [isPrepared] at prepared <;> rfl

namespace Rule

variable {before after : State} {inputs : Inputs} {effects : List Effect}

private theorem commands_of_powered (rule : Rule before inputs effects after)
    (powered : inputs.receiverPower = true) :
    before.phase.commands ++ effects.filterMap Effect.command? =
      after.phase.commands := by
  cases rule with
  | openFirstWindow _ phase =>
      rcases phase with ⟨phase, -⟩ | phase <;>
        simp [phase, Phase.commands, Effect.command?]
  | synchronise _ phase =>
      cases running : before.pseudoPulseRunning <;>
        simp [State.synchronisationEffects, phase, running, Phase.commands,
          Effect.command?]
  | wake _ phase => rw [phase]; rfl
  | _ => simp_all [Phase.commands, Effect.command?]

theorem of_dark (rule : Rule before inputs effects after)
    (dark : inputs.receiverPower = false) :
    effects = [] ∧ after.phase = .waitForPower := by
  cases rule <;> simp_all

private theorem effects_of_begins (rule : Rule before inputs effects after)
    (begins : .flushQueues ∈ effects ∨ .sendInit 0 ∈ effects) :
    effects = [.flushQueues, .sendInit 0] := by
  cases rule with
  | synchronise => simp [State.synchronisationEffects] at begins
  | _ => simp_all

theorem effects_of_ends (rule : Rule before inputs effects after)
    (ends : .clearFix ∈ effects ∨ .sendInit 3 ∈ effects) :
    effects = [.sendInit 3, .clearFix] := by
  cases rule with
  | synchronise => simp [State.synchronisationEffects] at ends
  | _ => simp_all

private theorem of_isPrepared (rule : Rule before inputs effects after)
    (prepared : after.phase.isPrepared = true) :
    effects = [.sendInit 3, .clearFix] ∨
      before.phase.isPrepared = true ∧ inputs.receiverPower = true ∧
        effects.filterMap Effect.command? = [] := by
  cases rule with
  | openFirstWindow _ phase =>
      rcases phase with ⟨phase, -⟩ | phase <;>
        simp_all [Phase.isPrepared, Effect.command?]
  | synchronise =>
      cases running : before.pseudoPulseRunning <;>
        simp_all [State.synchronisationEffects, Phase.isPrepared, Effect.command?]
  | _ => simp_all [Phase.isPrepared, Effect.command?]

end Rule

/-! ## All steps of a run -/

/-- The commands are sent in blocks, one for each stretch of power. -/
structure PreparesInBlocks (past : List Transition) : Prop where
  whole : commandsSent past = (stretches past).reverse.flatMap commandsSent
  /-- Only a loss of power, or the end of the run, cuts a block short. -/
  blocks : ∀ stretch ∈ stretches past, commandsSent stretch <+: [0, 1, 2, 3]
  begins : ∀ transition ∈ past,
    (.flushQueues ∈ transition.effects ∨ .sendInit 0 ∈ transition.effects) →
      transition.effects = [.flushQueues, .sendInit 0]
  ends : ∀ transition ∈ past,
    (.clearFix ∈ transition.effects ∨ .sendInit 3 ∈ transition.effects) →
      transition.effects = [.sendInit 3, .clearFix]
  known : ∀ transition ∈ past, ∀ index, .sendInit index ∈ transition.effects →
    index < 4 ∧ ∃ command, Nmea.initialisation[index]? = some command
  prepared : ∀ transition earlier, transition :: earlier <:+ past →
    transition.after.phase.isPrepared = true →
      ∃ latest older, stretches (transition :: earlier) = latest :: older ∧
        commandsSent latest = [0, 1, 2, 3]

/-- The receiver has kept its power, and no command was sent. -/
def KeepsPrepared (since : List Transition) : Prop :=
  ∀ transition ∈ since, transition.inputs.receiverPower = true ∧ transition.commands = []

namespace Run

variable {timings : Timings} {past : List Transition} {state : State}

private theorem exists_latest (run : Run timings past state) :
    ∃ latest older, stretches past = latest :: older ∧
      commandsSent latest = state.phase.commands ∧
      (∀ stretch ∈ older, commandsSent stretch <+: [0, 1, 2, 3]) ∧
      commandsSent past = older.reverse.flatMap commandsSent ++ commandsSent latest := by
  induction run using rule_induction with
  | start => exact ⟨[], [], rfl, rfl, by simp, rfl⟩
  | step past before inputs effects after run whole rule induction =>
      rcases induction with ⟨latest, older, cut, sent, blocks, together⟩
      cases powered : inputs.receiverPower with
      | false =>
          rcases rule.of_dark powered with ⟨rfl, phase⟩
          refine ⟨[], latest :: older, ?_, by rw [phase]; rfl, ?_, ?_⟩
          · rw [stretches_of_dark past powered, cut]
          · exact List.forall_mem_cons.mpr ⟨sent ▸ before.phase.commands_prefix, blocks⟩
          · simp [together, Transition.commands]
      | true =>
          refine ⟨_ :: latest, older, stretches_of_powered powered cut, ?_, blocks, ?_⟩
          · rw [commandsSent_cons, sent]
            exact rule.commands_of_powered powered
          · rw [commandsSent_cons, commandsSent_cons, together, List.append_assoc]

theorem exists_preparing (run : Run timings past state)
    (prepared : state.phase.isPrepared = true) :
    ∃ since preparing older, past = since ++ preparing :: older ∧
      preparing.effects = [.sendInit 3, .clearFix] ∧ KeepsPrepared since := by
  induction run using rule_induction with
  | start => simp [State.initial, Phase.isPrepared] at prepared
  | step past before inputs effects after run whole rule induction =>
      rcases rule.of_isPrepared prepared with rfl | ⟨already, powered, idle⟩
      · exact ⟨[], _, past, rfl, rfl, by simp [KeepsPrepared]⟩
      · rcases induction already with ⟨since, preparing, older, rfl, ends, keeps⟩
        refine ⟨_ :: since, preparing, older, rfl, ends, ?_⟩
        exact List.forall_mem_cons.mpr ⟨⟨powered, idle⟩, keeps⟩

/-- A run sends the commands in blocks, and has sent a whole one whenever it is past
them. -/
theorem preparesInBlocks (run : Run timings past state) : PreparesInBlocks past := by
  have taken (transition : Transition) (member : transition ∈ past) :
      Rule transition.before transition.inputs transition.effects transition.after := by
    rcases List.append_of_mem member with ⟨later, earlier, rfl⟩
    exact (run.of_suffix (List.suffix_append _ _)).of_cons.2.2
  rcases run.exists_latest with ⟨latest, older, cut, sent, blocks, together⟩
  constructor
  case whole => simp [cut, together]
  case blocks =>
    rw [cut]
    exact List.forall_mem_cons.mpr ⟨sent ▸ state.phase.commands_prefix, blocks⟩
  case begins => exact fun transition member =>
    (taken transition member).effects_of_begins
  case ends => exact fun transition member => (taken transition member).effects_of_ends
  case known =>
    intro transition member index sends
    have listed := (taken transition member).of_sendInit sends
    exact ⟨listed, _, List.getElem?_eq_getElem listed⟩
  case prepared =>
    intro transition earlier suffix isPrepared
    rcases (run.of_suffix suffix).exists_latest with ⟨latest, older, cut, sent, -⟩
    exact ⟨latest, older, cut, sent.trans (Phase.commands_of_isPrepared isPrepared)⟩

end Run

/-- Power is lost between two commands, comes back, and is lost again in the wait for a
fix. -/
def interruptedPreparation : List Inputs :=
  let idle (number : Nat) := List.replicate number (told none none)
  let dark (instant : Nat) := { told none none instant with receiverPower := false }
  ((idle 2 ++ [dark] ++ idle 5 ++ [dark, dark] ++ idle 1).mapIdx
    fun index inputs => inputs index).reverse

theorem preparesInBlocks_of_interruptedPreparation :
    ∃ past state, follow? .standard interruptedPreparation = some (past, state) ∧
      (stretches past).map commandsSent = [[0], [], [0, 1, 2, 3], [0, 1]] ∧
      PreparesInBlocks past := by
  have reads : ((follow? .standard interruptedPreparation).map fun run =>
      (stretches run.1).map commandsSent) = some [[0], [], [0, 1, 2, 3], [0, 1]] := by
    decide +kernel
  rcases Option.map_eq_some_iff.mp reads with ⟨⟨past, state⟩, followed, readOff⟩
  exact ⟨past, state, followed, readOff, (run_of_follow? followed).preparesInBlocks⟩

end ClockDiscipline.Sync
