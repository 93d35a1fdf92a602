import ClockDiscipline.Proofs.Station.Measurement

/-!
What a drift window comes to. It gives a rate exactly if the driver tells a measurement
that has one and every poll since the window was opened has found the fix held. Otherwise
the first of these that failed is named.
-/

namespace ClockDiscipline

/-- How a drift window went: what the driver answered when it was asked to open, to close
and to read the window, and whether the fix was held at each look in between. -/
structure WindowCourse where
  started : Except Pulse.Failure Unit
  /-- Oldest first. -/
  fixes : List Bool
  stopped : Except Pulse.Failure Unit
  told : Except Pulse.Failure Pulse.Window

namespace WindowCourse

def HasRate (course : WindowCourse) (rate : Float) : Prop :=
  (∃ window, course.told = .ok window ∧ window.driftRate = .ok rate) ∧
    ∀ held ∈ course.fixes, held = true

structure ComesTo (course : WindowCourse) (result : Except Rejection Float) : Prop where
  rate : ∀ rate, result = .ok rate ↔ course.HasRate rate
  driverFailure : ∀ failure, course.told = .error failure → result = .error .driverFailure
  rejected : ∀ window rejection, course.told = .ok window →
    window.driftRate = .error rejection → result = .error rejection
  lostFix : ∀ window rate, course.told = .ok window → window.driftRate = .ok rate →
    false ∈ course.fixes → result = .error .lostFix

end WindowCourse

/-! ## A window on its own -/

namespace DriftWindow

private theorem foldl_observe (fixes : List Bool) (lost : Bool) :
    fixes.foldl observe ⟨true, lost⟩ = ⟨true, lost || decide (false ∈ fixes)⟩ := by
  induction fixes generalizing lost with
  | nil => simp
  | cons held fixes induction => cases held <;> simp [observe, induction]

private theorem comesTo_outcome (course : WindowCourse) :
    course.ComesTo
      ((course.fixes.foldl observe ⟨true, false⟩).outcome course.told.toOption) := by
  rcases course with ⟨started, fixes, stopped, told⟩
  dsimp only
  rw [foldl_observe, Bool.false_or]
  -- The cases stand in the order in which an outcome is judged: the driver's answer, the
  -- rate of what it told, the fix.
  cases told with
  | error failure =>
      refine ⟨fun rate => ?_, fun _ _ => rfl, fun _ _ told => ?_, fun _ _ told => ?_⟩
      · simp [WindowCourse.HasRate, outcome, Except.toOption]
      · cases told
      · cases told
  | ok window =>
      simp only [outcome, judge, Except.toOption]
      cases rated : window.driftRate with
      | error rejection =>
          refine ⟨fun rate => ?_, fun _ told => ?_, fun _ _ told rejected => ?_,
            fun _ _ told has => ?_⟩
          · simp [WindowCourse.HasRate, rated]
          · cases told
          · cases told
            exact congrArg Except.error (Except.error.inj (rated.symm.trans rejected))
          · cases told
            cases rated.symm.trans has
      | ok rate =>
          refine ⟨fun other => ?_, fun _ told => ?_, fun _ _ told rejected => ?_,
            fun _ _ _ _ lost => ?_⟩
          · by_cases lost : false ∈ fixes <;> simp [WindowCourse.HasRate, rated, lost]
          · cases told
          · cases told
            cases rated.symm.trans rejected
          · exact if_pos (decide_eq_true lost)

variable {World : Type} (devices : Devices World)

def measure (before : DriftWindow) (opening : World) (fixes : List Bool)
    (closing : World) : Except Rejection Float :=
  let opened := ((before.start devices).start opening).1
  (((fixes.foldl observe opened).stop devices).start closing).1.1

def course (opening : World) (fixes : List Bool) (closing : World) : WindowCourse where
  started := (devices.perform (.pulse .startDrift) opening).answer
  fixes := fixes
  stopped := (devices.perform (.pulse .stopDrift) closing).answer
  told := (devices.perform (.pulse .getDrift)
    (devices.after [.pulse .stopDrift] closing)).answer

theorem comesTo_measure (before : DriftWindow) (opening : World) (fixes : List Bool)
    (closing : World) :
    (course devices opening fixes closing).ComesTo
      (before.measure devices opening fixes closing) := by
  have opened : ((before.start devices).start opening).1 = ⟨true, false⟩ :=
    (Station.makes_start devices before opening).regular_value.1
  have closed := (Station.makes_stop devices (fixes.foldl observe ⟨true, false⟩)
    closing).regular_value.1
  simp only [measure, opened, closed]
  exact comesTo_outcome (course devices opening fixes closing)

end DriftWindow

namespace Station

variable {World : Type} {devices : Devices World}

/-! ## Windows of a run -/

namespace Tick

variable (tick : Tick devices)

theorem drift_observed :
    tick.observed.drift = tick.before.drift.observe tick.inputs.hasFix := by
  rcases tick.listening_eq with ⟨power, bytes, listening⟩
  rcases tick.observed_eq with ⟨fix, observed⟩
  rw [inputs, observed, listening]
  rfl

private theorem drift_after_of_idle (idle : tick.step.effects = []) :
    tick.after.drift = tick.before.drift.observe tick.inputs.hasFix := by
  rw [after, idle, ← drift_observed]
  rfl

private theorem drift_after_of_startDrift (starts : .startDrift ∈ tick.step.effects) :
    tick.after.drift = ⟨true, false⟩ := by
  rcases tick.rule.effects_of_startDrift starts with effects | effects
  · rw [after, effects]
    rfl
  · rw [after, effects]
    rfl

private theorem exists_calls_of_startDrift (starts : .startDrift ∈ tick.step.effects) :
    ∃ earlier started, tick.calls = earlier ++ [⟨.pulse .startDrift, started⟩] := by
  rcases tick.rule.effects_of_startDrift starts with effects | effects
  · have asks : tick.actingRequests = [.pulse .stopDrift] ++ [.pulse .startDrift] := by
      simp [actingRequests, effects, Station.requests]
    rw [calls, asks, devices.calls_append, ← List.append_assoc]
    exact ⟨_, _, rfl⟩
  · have asks : tick.actingRequests = [.pulse .startDrift] := by
      simp [actingRequests, effects, Station.requests]
    rw [calls, asks]
    exact ⟨_, _, rfl⟩

theorem calls_of_finishDrift (finishes : .finishDrift ∈ tick.step.effects) :
    tick.calls =
      tick.hearing ++
        devices.calls [.pulse .stopDrift, .pulse .getDrift] tick.middle := by
  rw [calls, actingRequests, (tick.rule.of_finishDrift finishes).1]
  rfl

private theorem driftResult_after_of_finishDrift
    (finishes : .finishDrift ∈ tick.step.effects) :
    tick.after.driftResult =
      some (tick.observed.drift.outcome (devices.window? tick.middle)) := by
  rw [after, (tick.rule.of_finishDrift finishes).1]
  rfl

/-- `closing` closes the window that `opening` has opened. In the polls between, newest
first, nothing was asked for. -/
structure ClosesWindow (closing : Tick devices) (idle : List (Tick devices))
    (opening : Tick devices) (course : WindowCourse) : Prop where
  opens : .startDrift ∈ opening.step.effects
  quiet : ∀ tick ∈ idle, tick.step.effects = []
  closes : .finishDrift ∈ closing.step.effects
  started : ∃ earlier, opening.calls = earlier ++ [⟨.pulse .startDrift, course.started⟩]
  fixes : course.fixes = (closing :: idle).reverse.map fun tick => tick.inputs.hasFix
  closed : closing.calls = closing.hearing ++
    [⟨.pulse .stopDrift, course.stopped⟩, ⟨.pulse .getDrift, course.told⟩]

end Tick

namespace Run

variable {timings : Sync.Timings} {past : List (Tick devices)} {station : Station}

private theorem drift_of_idle {idle older : List (Tick devices)} {opening : Tick devices}
    (run : Run devices timings (idle ++ opening :: older) station)
    (opens : .startDrift ∈ opening.step.effects)
    (quiet : ∀ tick ∈ idle, tick.step.effects = []) :
    station.drift =
      (idle.reverse.map fun tick => tick.inputs.hasFix).foldl DriftWindow.observe
        ⟨true, false⟩ := by
  induction idle generalizing station with
  | nil =>
      rcases run.of_cons with ⟨-, rfl⟩
      exact opening.drift_after_of_startDrift opens
  | cons tick idle induction =>
      rcases List.forall_mem_cons.mp quiet with ⟨silent, quiet⟩
      rcases run.of_cons with ⟨earlier, rfl⟩
      rw [tick.drift_after_of_idle silent, induction earlier quiet, List.reverse_cons,
        List.map_append, List.foldl_append]
      rfl

theorem comesTo_of_closesWindow {closing opening : Tick devices}
    {idle older : List (Tick devices)} {course : WindowCourse}
    (run : Run devices timings (closing :: (idle ++ opening :: older)) station)
    (window : closing.ClosesWindow idle opening course) :
    ∃ result, closing.after.driftResult = some result ∧ course.ComesTo result := by
  rcases run.of_cons with ⟨earlier, -⟩
  refine ⟨_, closing.driftResult_after_of_finishDrift window.closes, ?_⟩
  have told : devices.window? closing.middle = course.told.toOption := by
    have calls := (closing.calls_of_finishDrift window.closes).symm.trans window.closed
    have answers := List.append_cancel_left calls
    simp only [Devices.calls, List.cons.injEq, Call.mk.injEq, heq_eq_eq, true_and,
      and_true]
      at answers
    rw [← answers.2]
    rfl
  have looked : closing.observed.drift =
      course.fixes.foldl DriftWindow.observe ⟨true, false⟩ := by
    rw [closing.drift_observed, earlier.drift_of_idle window.opens window.quiet,
      window.fixes, List.reverse_cons, List.map_append, List.foldl_append]
    rfl
  rw [looked, told]
  exact DriftWindow.comesTo_outcome course

theorem exists_closesWindow {closing : Tick devices} {earlier : List (Tick devices)}
    (run : Run devices timings (closing :: earlier) station)
    (closes : .finishDrift ∈ closing.step.effects) :
    ∃ idle opening older course, earlier = idle ++ opening :: older ∧
      closing.ClosesWindow idle opening course := by
  rcases run.of_cons with ⟨before, -⟩
  rcases closing.rule.of_finishDrift closes with ⟨-, -, phase, opened⟩
  rcases before.windows.opened phase opened with
    ⟨idle, opening, older, rfl, opens, quiet, -⟩
  rcases opening.exists_calls_of_startDrift opens with ⟨first, started, calls⟩
  exact ⟨idle, opening, older, ⟨started, _, _, _⟩, rfl, opens, quiet, closes,
    ⟨first, calls⟩, rfl, closing.calls_of_finishDrift closes⟩

theorem finishes_of_driftResult {closing : Tick devices} {earlier : List (Tick devices)}
    {result : Except Rejection Float}
    (run : Run devices timings (closing :: earlier) station)
    (handed : station.driftResult = some result) :
    .finishDrift ∈ closing.step.effects := by
  have phase : station.sync.phase = .measureDrift := by
    by_contra outside
    rw [run.measuring.noDriftResult outside] at handed
    cases handed
  have awaiting := (run.measuring.driftResult phase).mp (by rw [handed]; rfl)
  rcases run.windows.closed phase awaiting result handed with ⟨_, _, same, closes, -⟩
  cases same
  rw [closes.effects]
  exact List.mem_singleton_self _

/-- Whenever a window is closed, the next step learns what the window has come to since
the poll that opened it. -/
theorem windowOutcome (run : Run devices timings past station) :
    ∀ closing earlier, closing :: earlier <:+ past → .finishDrift ∈ closing.step.effects →
      ∃ idle opening older course result, earlier = idle ++ opening :: older ∧
        closing.ClosesWindow idle opening course ∧ course.ComesTo result ∧
        closing.after.driftResult = some result ∧
        ∀ next : Tick devices, next.before = closing.after →
          next.inputs.driftResult = some result := by
  intro closing earlier suffix closes
  have reached := run.of_suffix suffix
  rcases reached.exists_closesWindow closes with
    ⟨idle, opening, older, course, rfl, window⟩
  rcases reached.comesTo_of_closesWindow window with ⟨result, handed, comes⟩
  refine ⟨idle, opening, older, course, result, rfl, window, comes, handed, ?_⟩
  intro next follows
  calc next.inputs.driftResult = next.before.driftResult := next.driftResult_observed
    _ = some result := by rw [follows, handed]

end Run

section Results

variable {handed : Option (Except Rejection Float)}

def isLostFix : Except Rejection Float → Bool
  | .error .lostFix => true
  | _ => false

private theorem eq_of_isLostFix (lost : handed.any isLostFix = true) :
    handed = some (.error .lostFix) := by
  rcases (Option.any_eq_true _ _).mp lost with ⟨result, rfl, spoilt⟩
  unfold isLostFix at spoilt
  split at spoilt
  · rfl
  · cases spoilt

theorem exists_rate_of_isOk (rated : handed.any Except.isOk = true) :
    ∃ rate, handed = some (.ok rate) := by
  rcases (Option.any_eq_true _ _).mp rated with ⟨result, rfl, isOk⟩
  cases result with
  | ok rate => exact ⟨rate, rfl⟩
  | error rejection => cases isOk

end Results

def unvouched : Script :=
  { Script.initial with
    incoming := Text.Latin.encode "$GPRMC,134724,V,,,,,,,180510,0,\r\n" }

/-- The fix is lost in a window and back before it is closed. The next window is
undisturbed. -/
def recoveredFix : List (Nat × Int × Script) :=
  [(771, 771, dated today), (740, 740, dated today), (731, 731, dated today),
    (720, 720, dated today),
    (710, 710, unvouched)] ++ atIntervals (List.replicate 8 (dated today))

theorem windowOutcome_of_recoveredFix :
    ∃ (past : List (Tick Script.devices)) (station : Station),
      Run Script.devices .standard past station ∧
        replay? Script.devices .standard recoveredFix =
          some (past.map Tick.played, station.bare) ∧
        (∃ closing ∈ past,
          .finishDrift ∈ closing.step.effects ∧ closing.inputs.hasFix = true ∧
          closing.after.driftResult = some (.error .lostFix)) ∧
        (∃ closing ∈ past, .finishDrift ∈ closing.step.effects ∧
          ∃ rate, closing.after.driftResult = some (.ok rate)) ∧
        ∀ closing earlier, closing :: earlier <:+ past →
          .finishDrift ∈ closing.step.effects →
          ∃ idle opening older course result, earlier = idle ++ opening :: older ∧
            closing.ClosesWindow idle opening course ∧ course.ComesTo result ∧
            closing.after.driftResult = some result ∧
            ∀ next : Tick Script.devices, next.before = closing.after →
              next.inputs.driftResult = some result := by
  have replays : ((replay? Script.devices .standard recoveredFix).map fun run =>
      (run.1.any fun played =>
          played.transition.inputs.hasFix && played.after.driftResult.any isLostFix,
        run.1.any fun played => played.after.driftResult.any Except.isOk)) =
      some (true, true) := by
    decide +kernel
  rcases exists_run_of_reads replays with ⟨past, station, run, replays, reads⟩
  simp only [Prod.mk.injEq, any_played_iff, Bool.and_eq_true] at reads
  rcases reads with ⟨⟨spoilt, spoiltMember, held, lost⟩, ⟨sound, soundMember, rated⟩⟩
  have spoiltResult := eq_of_isLostFix lost
  rcases exists_rate_of_isOk rated with ⟨rate, soundResult⟩
  have closes (tick : Tick Script.devices) (member : tick ∈ past)
      (result : Except Rejection Float) (handed : tick.after.driftResult = some result) :
      .finishDrift ∈ tick.step.effects := by
    rcases run.exists_suffix_of_mem member with ⟨earlier, suffix, -⟩
    exact (run.of_suffix suffix).finishes_of_driftResult handed
  exact ⟨past, station, run, replays,
    ⟨spoilt, spoiltMember, closes _ spoiltMember _ spoiltResult, held, spoiltResult⟩,
    ⟨sound, soundMember, closes _ soundMember _ soundResult, rate, soundResult⟩,
    run.windowOutcome⟩

end Station

end ClockDiscipline
