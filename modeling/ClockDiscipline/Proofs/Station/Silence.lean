import ClockDiscipline.Proofs.Station.Watching
import ClockDiscipline.Proofs.Sync.Preparation

/-!
Silence of the receiver. After a poll the station waits for power if and only if nothing
has been read for more than five seconds, or nothing at all, and such a poll leaves the
devices alone.
-/

namespace ClockDiscipline

private theorem Sync.Rule.phase_of_powered {before after : Sync.State}
    {inputs : Sync.Inputs}
    {effects : List Sync.Effect} (rule : Sync.Rule before inputs effects after)
    (powered : inputs.receiverPower = true) : after.phase ≠ .waitForPower := by
  cases rule with
  | losePower dark => simp [dark] at powered
  | wait _ unready =>
      intro phase
      simp [Sync.State.isReady, phase] at unready
  | closeWindow _ phase => simp [phase]
  | rejectWindow _ phase => simp [phase]
  | disagree _ phase => simp [phase]
  | measureAgain _ phase => simp [phase]
  | _ => simp

namespace ReceiverPower

@[simp] theorem deadline_watch (power : ReceiverPower) (now : Nat) :
    (power.watch now).deadline = power.deadline := by
  unfold watch
  split <;> rfl

private theorem powered_watch_iff (power : ReceiverPower) (now : Nat) :
    (power.watch now).powered = true ↔ power.powered = true ∧ now ≤ power.deadline := by
  unfold watch
  cases powered : power.powered with
  | false => simp [powered]
  | true =>
      by_cases passed : power.deadline < now
      · simp [passed]
      · simp [passed, powered, Nat.le_of_not_lt passed]

end ReceiverPower

namespace Station

variable {World : Type} {devices : Devices World}

/-! ## Bytes that were read -/

/-- The poll has read bytes. Neither a read that fails nor an empty one gives any. -/
def Tick.readsBytes (tick : Tick devices) : Bool := !tick.received.isEmpty

/-- Bytes were last read more than five seconds ago, or never. -/
def IsSilent (past : List (Tick devices)) (now : Nat) : Prop :=
  ∀ last, past.find? Tick.readsBytes = some last → last.now + 5 < now

private theorem isSilent_iff {past : List (Tick devices)} {now deadline : Nat}
    {powered : Bool}
    (watches : Watches 5 now
      ((past.find? Tick.readsBytes).map Tick.now) powered deadline) :
    IsSilent past now ↔ powered = false := by
  rw [← Bool.not_eq_true, watches.flag_iff]
  simp [IsSilent]

private theorem power_act (effects : List Sync.Effect) :
    ∀ (station : Station) (world : World),
    (act devices effects station world).power = station.power := by
  apply part_act
  intro effect _ station window
  cases effect <;> rfl

namespace Tick

variable (tick : Tick devices) {earlier : List (Tick devices)}

private theorem power_observed :
    tick.observed.power = tick.listening.power.watch tick.now := by
  rcases tick.observed_eq with ⟨fix, observed⟩
  rw [observed]

private theorem power_after : tick.after.power = tick.observed.power :=
  power_act _ _ _

private theorem power_listening_of_reads (reads : tick.readsBytes = true) :
    tick.listening.power = ⟨true, tick.now + 5⟩ := by
  have listened := tick.listens.1
  rw [listen, if_neg (by simpa [readsBytes] using reads), ReceiverPower.hear] at listened
  cases deadline : addUnsigned tick.now powerTimeout with
  | error overflow => simp [deadline, bind, Except.bind] at listened
  | ok limit =>
      simp only [deadline, bind, Except.bind, pure, Except.pure,
        Except.ok.injEq] at listened
      rw [← listened, ← (addUnsigned_eq_ok_iff.mp deadline).2]
      rfl

private theorem power_listening_of_deaf (deaf : tick.readsBytes = false) :
    tick.listening.power = tick.before.power := by
  have listened := tick.listens.1
  rw [listen, if_pos (by simpa [readsBytes] using deaf)] at listened
  exact (Except.ok.inj listened).symm

private theorem watchesPower (forward : Forward (tick :: earlier))
    (watches : Watches 5 (reached earlier) ((earlier.find? readsBytes).map Tick.now)
      tick.before.power.powered tick.before.power.deadline) :
    Watches 5 tick.now (((tick :: earlier).find? readsBytes).map Tick.now)
      tick.after.power.powered tick.after.power.deadline := by
  rw [power_after, power_observed, ReceiverPower.deadline_watch]
  cases reads : tick.readsBytes with
  | true =>
      rw [List.find?_cons_of_pos reads, tick.power_listening_of_reads reads]
      apply (Watches.sign 5 tick.now).wait (Nat.le_refl _)
      rw [ReceiverPower.powered_watch_iff]
  | false =>
      rw [List.find?_cons_of_neg (by simp [reads]), tick.power_listening_of_deaf reads]
      exact watches.wait forward.reached_le (ReceiverPower.powered_watch_iff _ _)

private theorem hearing_of_noSentence (none : tick.sentences = []) :
    tick.hearing = [] := by
  have heard := tick.heard
  rw [show tick.listening.assembled.sentences.toList = [] from none,
    List.foldlM_nil] at heard
  exact (heard.unique (Dialogue.evaluatesTo_pure _ _)).2.1

private theorem calls_of_dark (resting : tick.before.Resting)
    (dark : tick.inputs.receiverPower = false) : tick.calls = [] := by
  have unheard : tick.sentences = [] := by
    by_contra heard
    rw [tick.powered_of_sentences resting heard] at dark
    cases dark
  have idle : tick.step.effects = [] := (tick.rule.of_dark dark).1
  rw [calls, tick.hearing_of_noSentence unheard, actingRequests, idle]
  rfl

private theorem phase_after_iff :
    tick.after.sync.phase = .waitForPower ↔ tick.inputs.receiverPower = false := by
  constructor
  · intro waits
    by_contra powered
    exact tick.rule.phase_of_powered (by simpa using powered) waits
  · exact fun dark => (tick.rule.of_dark dark).2

end Tick

/-! ## All polls of a run -/

namespace Run

variable {timings : Sync.Timings} {past : List (Tick devices)} {station : Station}

private theorem watchesPower (run : Run devices timings past station)
    (forward : Forward past) :
    Watches 5 (reached past)
      ((past.find? Tick.readsBytes).map Tick.now) station.power.powered
      station.power.deadline := by
  induction run with
  | start => exact .never _ _ _
  | poll tick run induction => exact tick.watchesPower forward (induction forward.of_cons)

/-- After a poll the station waits for power exactly in silence, and in silence it asks
nothing of its devices. -/
theorem waitsInSilence (run : Run devices timings past station) (forward : Forward past) :
    ∀ tick earlier, tick :: earlier <:+ past →
      (tick.after.sync.phase = .waitForPower ↔ IsSilent (tick :: earlier) tick.now) ∧
        (IsSilent (tick :: earlier) tick.now → tick.calls = []) := by
  intro tick earlier suffix
  have forward : Forward (tick :: earlier) := List.Pairwise.sublist suffix.sublist forward
  have silent := isSilent_iff ((run.of_suffix suffix).watchesPower forward)
  rw [tick.power_after] at silent
  constructor
  · exact tick.phase_after_iff.trans silent.symm
  · intro isSilent
    exact tick.calls_of_dark (run.of_suffix suffix).of_cons.1.resting (silent.mp isSilent)

end Run

/-- A drift window is open when the link has nothing to read, and then cannot be read at
all. -/
def silencedWindow : List (Nat × Int × Script) :=
  [(806, 806, { dated today with refused := [.read] }), (805, 805, Script.initial)] ++
    atIntervals (List.replicate 9 (dated today))

theorem waitsInSilence_of_silencedWindow :
    ∃ (past : List (Tick Script.devices)) (station : Station),
      Run Script.devices .standard past station ∧ past.map Tick.poll = silencedWindow ∧
        Forward past ∧
        (past.take 2).map (fun tick => (tick.before.sync.phase, tick.after.sync.phase)) =
          [(.measureDrift, .waitForPower), (.measureDrift, .measureDrift)] ∧
        ∀ tick earlier, tick :: earlier <:+ past →
          (tick.after.sync.phase = .waitForPower ↔ IsSilent (tick :: earlier) tick.now) ∧
            (IsSilent (tick :: earlier) tick.now → tick.calls = []) := by
  have reads : ((replay? Script.devices .standard silencedWindow).map fun run =>
      (run.1.take 2).map fun played =>
        (played.before.sync.phase, played.after.sync.phase)) =
        some [(.measureDrift, .waitForPower), (.measureDrift, .measureDrift)] := by
    decide +kernel
  rcases Option.map_eq_some_iff.mp reads with ⟨⟨replayed, final⟩, replays, phases⟩
  rcases exists_run_of_replay? replays with ⟨past, station, run, polls, rfl, -⟩
  have forward : Forward past := forward_of_polls polls (by decide +kernel)
  rw [← List.map_take, List.map_map] at phases
  exact ⟨past, station, run, polls, forward, phases, run.waitsInSilence forward⟩

end Station

end ClockDiscipline
