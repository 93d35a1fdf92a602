import ClockDiscipline.Proofs.Station.Measurement

/-!
Outstanding measurements. A drift window is closed before the error is asked for. A
pending measurement of the error lasts until the driver tells the time of a pulse, even if
power is lost meanwhile, so the next cycle may open a window beside it.
-/

namespace ClockDiscipline.Station

variable {World : Type} {devices : Devices World}

/-! ## Which parts of a poll change what is outstanding -/

private theorem pending_act_iff (effects : List Sync.Effect) :
    ∀ (station : Station) (world : World),
    (act devices effects station world).reception.clockError.pending = true ↔
      station.reception.clockError.pending = true ∨ .startError ∈ effects := by
  induction effects with
  | nil => simp [act]
  | cons effect rest induction =>
      intro station world
      rw [act, induction]
      cases effect <;> simp [carriedOut]

private theorem startDrift_mem_of_isOpen_act (effects : List Sync.Effect) :
    ∀ (station : Station) (world : World), station.drift.isOpen = false →
      (act devices effects station world).drift.isOpen = true →
        .startDrift ∈ effects := by
  induction effects with
  | nil =>
      intro station world closed opened
      rw [act, closed] at opened
      cases opened
  | cons effect rest induction =>
      intro station world closed opened
      cases effect with
      | startDrift => exact List.mem_cons_self
      | _ =>
          exact List.mem_cons_of_mem _
            (induction _ _ (by simp [carriedOut, closed]) opened)

namespace Tick

variable (tick : Tick devices)

def TellsPulse : Prop := ∃ atPulse, ⟨.pulse .getTime, .ok atPulse⟩ ∈ tick.hearing

private theorem isOpen_acting : tick.acting.drift.isOpen = tick.before.drift.isOpen :=
  tick.isOpen_observed

private theorem pending_acting_iff : tick.acting.reception.clockError.pending = true ↔
    tick.before.reception.clockError.pending = true ∧ ¬tick.TellsPulse := by
  have kept : tick.acting.reception.clockError.pending =
      tick.reception.clockError.pending := by
    rw [← tick.clockError_observed]
    rfl
  rw [kept]
  rcases tick.hears.clockError with same | ⟨-, _, -, _, atPulse, -, told, ends⟩
  · rw [← same]
    refine ⟨fun pending => ⟨pending, ?_⟩, And.left⟩
    rintro ⟨atPulse, told⟩
    exact tick.hears.unanswered pending atPulse told
  · refine ⟨fun pending => ?_, fun waits => absurd ⟨atPulse, told⟩ waits.2⟩
    rw [ends] at pending
    cases pending

private theorem pending_after_iff : tick.after.reception.clockError.pending = true ↔
    tick.before.reception.clockError.pending = true ∧ ¬tick.TellsPulse ∨
      .startError ∈ tick.step.effects := by
  rw [← pending_acting_iff]
  exact pending_act_iff _ _ _

private theorem isOpen_after (opened : tick.after.drift.isOpen = true) :
    tick.before.drift.isOpen = true ∨ .startDrift ∈ tick.step.effects := by
  cases before : tick.before.drift.isOpen with
  | true => exact .inl rfl
  | false =>
      exact .inr
        (startDrift_mem_of_isOpen_act _ _ _ (tick.isOpen_acting.trans before) opened)

private theorem not_startDrift_of_startError (asks : .startError ∈ tick.step.effects) :
    .startDrift ∉ tick.step.effects := by
  rw [(tick.rule.of_startError asks).1]
  simp

private theorem isOpen_of_startError (measured : tick.before.Measuring)
    (closed : tick.before.sync.phase = .measureError → tick.before.drift.isOpen = false)
    (asks : .startError ∈ tick.step.effects) : tick.before.drift.isOpen = false := by
  rcases (tick.rule.of_startError asks).2.2 with ⟨drifting, awaiting⟩ | measuring
  · have opened := measured.isOpen drifting
    simpa [awaiting] using opened
  · exact closed measuring

private theorem errorResult_eq_none (measured : tick.before.Measuring)
    (unanswered : ¬tick.TellsPulse) :
    tick.inputs.errorResult = none := by
  show tick.observed.reception.clockError.result = none
  rw [tick.clockError_observed]
  rcases tick.hears.clockError with same | ⟨-, _, -, _, atPulse, -, told, -⟩
  · rw [same, measured.noErrorResult]
  · exact absurd ⟨atPulse, told⟩ unanswered

end Tick

/-! ## Outstanding measurements of a run -/

/-- The error was asked for in `asking`, and in no poll since has the driver told the time
of a pulse. -/
structure AwaitsPulse (since : List (Tick devices)) (asking : Tick devices) : Prop where
  asks : .startError ∈ asking.step.effects
  unanswered : ∀ tick ∈ since, ¬tick.TellsPulse

/-- A drift window and a measurement of the error are never outstanding together, and
neither is begun beside the other. -/
structure OneAtATime (past : List (Tick devices)) : Prop where
  outstanding : ∀ tick ∈ past,
    ¬(tick.after.drift.isOpen = true ∧ tick.after.reception.clockError.pending = true)
  opening : ∀ tick ∈ past, .startDrift ∈ tick.step.effects →
    tick.acting.reception.clockError.pending = false
  asking : ∀ tick ∈ past, .startError ∈ tick.step.effects →
    tick.acting.drift.isOpen = false

/-- A window was opened although the driver has not told the time of a pulse since the
error was asked for; power was lost in between. -/
def ForgetsError (past : List (Tick devices)) : Prop :=
  ∃ opening since asking older, opening :: (since ++ asking :: older) <:+ past ∧
    AwaitsPulse (opening :: since) asking ∧
    (∃ dark ∈ since, dark.inputs.receiverPower = false) ∧
      .startDrift ∈ opening.step.effects

namespace Run

variable {timings : Sync.Timings} {past since older : List (Tick devices)}
  {asking : Tick devices}
  {station : Station}

private theorem isOpen_of_measureError (run : Run devices timings past station)
    (phase : station.sync.phase = .measureError) : station.drift.isOpen = false := by
  induction run with
  | start => cases phase
  | poll tick run induction =>
      by_contra opened
      rw [Bool.not_eq_false] at opened
      -- An open window was open before or has just been opened. Neither goes with the
      -- error phase.
      rcases tick.rule.of_measureError phase with asks | ⟨idle, stays⟩
      · have closed := tick.isOpen_of_startError run.measuring induction asks
        have opens := (tick.isOpen_after opened).resolve_left (by simp [closed])
        exact tick.not_startDrift_of_startError asks opens
      · have opens := (tick.isOpen_after opened).resolve_left (by simp [induction stays])
        simp [idle] at opens

private theorem exists_awaitsPulse (run : Run devices timings past station)
    (pending : station.reception.clockError.pending = true) :
    ∃ since asking older, past = since ++ asking :: older ∧ AwaitsPulse since asking := by
  induction run with
  | start => cases pending
  | @poll past tick run induction =>
      rcases tick.pending_after_iff.mp pending with ⟨waits, unanswered⟩ | asks
      · rcases induction waits with ⟨since, asking, older, rfl, awaits⟩
        exact ⟨tick :: since, asking, older, rfl, awaits.asks,
          List.forall_mem_cons.mpr ⟨unanswered, awaits.unanswered⟩⟩
      · exact ⟨[], tick, past, rfl, asks, by simp⟩

private theorem pending_of_awaitsPulse
    (run : Run devices timings (since ++ asking :: older) station)
    (awaits : AwaitsPulse since asking) :
    station.reception.clockError.pending = true := by
  induction since generalizing station with
  | nil =>
      rcases run.of_cons with ⟨-, rfl⟩
      exact asking.pending_after_iff.mpr (.inr awaits.asks)
  | cons tick since induction =>
      rcases List.forall_mem_cons.mp awaits.unanswered with ⟨unanswered, earlier⟩
      rcases run.of_cons with ⟨before, rfl⟩
      exact tick.pending_after_iff.mpr
        (.inl ⟨induction before ⟨awaits.asks, earlier⟩, unanswered⟩)

private theorem phase_of_awaitsPulse
    (run : Run devices timings (since ++ asking :: older) station)
    (awaits : AwaitsPulse since asking)
    (powered : ∀ tick ∈ since, tick.inputs.receiverPower = true) :
    station.sync.phase = .measureError := by
  induction since generalizing station with
  | nil =>
      rcases run.of_cons with ⟨-, rfl⟩
      exact (asking.rule.of_startError awaits.asks).2.1
  | cons tick since induction =>
      rcases List.forall_mem_cons.mp awaits.unanswered with ⟨unanswered, earlier⟩
      rcases List.forall_mem_cons.mp powered with ⟨lit, powered⟩
      rcases run.of_cons with ⟨before, rfl⟩
      exact tick.rule.phase_eq_measureError lit
        (induction before ⟨awaits.asks, earlier⟩ powered)
        (tick.errorResult_eq_none before.measuring unanswered)

private theorem forgetsError_of_startDrift {tick : Tick devices}
    (run : Run devices timings past tick.before) (opens : .startDrift ∈ tick.step.effects)
    (pending : tick.acting.reception.clockError.pending = true) :
    ForgetsError (tick :: past) := by
  rcases tick.pending_acting_iff.mp pending with ⟨waits, unanswered⟩
  rcases run.exists_awaitsPulse waits with ⟨since, asking, older, rfl, awaits⟩
  refine ⟨tick, since, asking, older, List.suffix_refl _,
    ⟨awaits.asks, List.forall_mem_cons.mpr ⟨unanswered, awaits.unanswered⟩⟩, ?_, opens⟩
  -- With power throughout, the error phase would have lasted, and it opens no window.
  by_contra lit
  have phase : tick.before.sync.phase = .measureError := by
    refine run.phase_of_awaitsPulse awaits fun other member => ?_
    rw [← Bool.not_eq_false]
    exact fun dark => lit ⟨other, member, dark⟩
  rcases tick.rule.of_startDrift opens with ⟨settling, -⟩ | settling | drifting <;>
    simp_all

private theorem not_outstanding (run : Run devices timings past station)
    (opening : ∀ tick ∈ past, .startDrift ∈ tick.step.effects →
      tick.acting.reception.clockError.pending = false) :
    ¬(station.drift.isOpen = true ∧ station.reception.clockError.pending = true) := by
  induction run with
  | start => simp [initial, DriftWindow.new]
  | poll tick run induction =>
      rcases List.forall_mem_cons.mp opening with ⟨apart, opening⟩
      rintro ⟨opened, pending⟩
      rcases tick.pending_after_iff.mp pending with waits | asks
      · rcases tick.isOpen_after opened with stays | opens
        · exact induction opening ⟨stays, waits.1⟩
        · have idle := apart opens
          rw [tick.pending_acting_iff.mpr waits] at idle
          cases idle
      · have closed :=
          tick.isOpen_of_startError run.measuring run.isOpen_of_measureError asks
        have opens := (tick.isOpen_after opened).resolve_left (by simp [closed])
        exact tick.not_startDrift_of_startError asks opens

private theorem opensApart_iff (run : Run devices timings past station) :
    (∀ tick ∈ past, .startDrift ∈ tick.step.effects →
      tick.acting.reception.clockError.pending = false) ↔ ¬ForgetsError past := by
  constructor
  · rintro apart ⟨opening, since, asking, older, suffix, awaits, -, opens⟩
    rcases List.forall_mem_cons.mp awaits.unanswered with ⟨unanswered, earlier⟩
    rcases (run.of_suffix suffix).of_cons with ⟨before, -⟩
    have pending := opening.pending_acting_iff.mpr
      ⟨before.pending_of_awaitsPulse ⟨awaits.asks, earlier⟩, unanswered⟩
    rw [apart opening (suffix.subset List.mem_cons_self) opens] at pending
    cases pending
  · intro remembers tick member opens
    by_contra pending
    rw [Bool.not_eq_false] at pending
    rcases run.exists_suffix_of_mem member with ⟨earlier, suffix, before⟩
    rcases before.forgetsError_of_startDrift opens pending with
      ⟨opening, since, asking, older, within, forgets⟩
    exact remembers ⟨opening, since, asking, older, within.trans suffix, forgets⟩

/-- One measurement is outstanding at a time if and only if no window is opened after a
loss of power has left an error unmeasured. -/
theorem oneAtATime_iff (run : Run devices timings past station) :
    OneAtATime past ↔ ¬ForgetsError past := by
  refine ⟨fun single => run.opensApart_iff.mp single.opening, fun remembers => ?_⟩
  have apart := run.opensApart_iff.mpr remembers
  refine ⟨fun tick member => ?_, apart, fun tick member asks => ?_⟩
  · rcases run.exists_suffix_of_mem member with ⟨earlier, suffix, before⟩
    exact (Run.poll tick before).not_outstanding
      fun other within => apart other (suffix.subset within)
  · rcases run.exists_suffix_of_mem member with ⟨earlier, -, before⟩
    exact tick.isOpen_acting.trans
      (tick.isOpen_of_startError before.measuring before.isOpen_of_measureError asks)

end Run

theorem oneAtATime_of_steadyClock :
    ∃ (past : List (Tick Script.devices)) (station : Station),
      Run Script.devices .standard past station ∧
        replay? Script.devices .standard (atIntervals (List.replicate 24 (dated today))) =
          some (past.map Tick.played, station.bare) ∧
        station.sync.phase = .waitForNextSync ∧ OneAtATime past := by
  have replays : ((replay? Script.devices .standard
      (atIntervals (List.replicate 24 (dated today)))).map fun run =>
        (run.2.sync.phase,
          run.1.all fun played => played.transition.inputs.receiverPower)) =
      some (.waitForNextSync, true) := by
    decide +kernel
  rcases exists_run_of_reads replays with ⟨past, station, run, replays, reads⟩
  simp only [Prod.mk.injEq, all_played_iff] at reads
  refine ⟨past, station, run, replays, reads.1, run.oneAtATime_iff.mpr ?_⟩
  rintro ⟨opening, since, asking, older, suffix, -, ⟨dark, member, unpowered⟩, -⟩
  have powered : dark.inputs.receiverPower = true :=
    reads.2 dark (suffix.subset (by simp [member]))
  rw [powered] at unpowered
  cases unpowered

/-- Power is lost while the error is pending, and no date can be used until a window is
open. -/
def forgottenError : List (Nat × Int × Script) :=
  (2401, 2401, dated today) :: atIntervals
    (List.replicate 18 (dated today) ++
      Script.initial :: List.replicate 6 (dated "000000"))

theorem not_oneAtATime_of_forgottenError :
    ∃ (past : List (Tick Script.devices)) (station : Station),
      Run Script.devices .standard past station ∧
        replay? Script.devices .standard forgottenError =
          some (past.map Tick.played, station.bare) ∧
        (∃ tick ∈ past, tick.after.drift.isOpen = true ∧
          tick.after.reception.clockError.pending = true) ∧
        (∃ tick ∈ past,
          tick.before.drift.isOpen = true ∧ .pulse .getTime ∈ tick.requests) ∧
        ¬OneAtATime past := by
  have replays : ((replay? Script.devices .standard forgottenError).map fun run =>
      (run.1.any fun played =>
          played.after.drift.isOpen && played.after.reception.clockError.pending,
        run.1.any fun played => played.before.drift.isOpen &&
          decide (.pulse .getTime ∈ played.calls.map Call.request))) =
      some (true, true) := by
    decide +kernel
  rcases exists_run_of_reads replays with ⟨past, station, run, replays, reads⟩
  simp only [Prod.mk.injEq, any_played_iff, Bool.and_eq_true, decide_eq_true_eq] at reads
  rcases reads with ⟨⟨beside, member, both⟩, ⟨inside, within, opened, asks⟩⟩
  exact ⟨past, station, run, replays, ⟨beside, member, both⟩,
    ⟨inside, within, opened, asks⟩, fun single => single.outstanding beside member both⟩

end ClockDiscipline.Station
