import ClockDiscipline.Proofs.Station.WindowOutcome

/-!
What becomes of a window that the driver refuses to open or to close. The station takes no
note of either refusal, so it can rely on its rates only if no such window has one.
-/

namespace ClockDiscipline

namespace WindowCourse

/-- The driver has agreed to open the window and to close it. -/
def Accepted (course : WindowCourse) : Prop :=
  course.started = .ok () ∧ course.stopped = .ok ()

/-- The driver has refused to open or to close the window, and yet tells a measurement
that counts as that of the window. -/
def Miscounted (course : WindowCourse) : Prop :=
  ¬course.Accepted ∧ ∃ rate, course.HasRate rate

private theorem ComesTo.accepted_iff {course : WindowCourse}
    {result : Except Rejection Float} (comes : course.ComesTo result) :
    (∀ rate, result = .ok rate → course.Accepted) ↔ ¬course.Miscounted := by
  constructor
  · rintro accepts ⟨refused, rate, has⟩
    exact refused (accepts rate ((comes.rate rate).mpr has))
  · intro sound rate counts
    by_contra refused
    exact sound ⟨refused, rate, (comes.rate rate).mp counts⟩

end WindowCourse

namespace Station

variable {World : Type} {devices : Devices World}

/-! ## Which windows count -/

namespace Tick.ClosesWindow

variable {closing opening otherOpening : Tick devices}
  {idle otherIdle older otherOlder : List (Tick devices)}
    {course otherCourse : WindowCourse}

private theorem eq_nil_of_quiet {more : List (Tick devices)}
    (opens : .startDrift ∈ opening.step.effects)
    (quiet : ∀ tick ∈ more, tick.step.effects = [])
    (same : opening :: older = more ++ otherOpening :: otherOlder) : more = [] := by
  cases more with
  | nil => rfl
  | cons tick more =>
      cases same
      rw [quiet opening List.mem_cons_self] at opens
      cases opens

private theorem opening_unique (window : closing.ClosesWindow idle opening course)
    (other : closing.ClosesWindow otherIdle otherOpening otherCourse)
    (same : idle ++ opening :: older = otherIdle ++ otherOpening :: otherOlder) :
    idle = otherIdle ∧ opening = otherOpening := by
  rcases List.append_eq_append_iff.mp same with ⟨more, whole, rest⟩ | ⟨more, whole, rest⟩
  · have none : more = [] := eq_nil_of_quiet window.opens
      (fun tick member => other.quiet tick (by simp [whole, member])) rest
    subst none
    cases rest
    exact ⟨by simpa using whole.symm, rfl⟩
  · have none : more = [] := eq_nil_of_quiet other.opens
      (fun tick member => window.quiet tick (by simp [whole, member])) rest
    subst none
    cases rest
    exact ⟨by simpa using whole, rfl⟩

private theorem unique (window : closing.ClosesWindow idle opening course)
    (other : closing.ClosesWindow otherIdle otherOpening otherCourse)
    (same : idle ++ opening :: older = otherIdle ++ otherOpening :: otherOlder) :
    course = otherCourse := by
  rcases window.opening_unique other same with ⟨rfl, rfl⟩
  rcases window.started with ⟨earlier, calls⟩
  rcases other.started with ⟨otherEarlier, otherCalls⟩
  have started := (List.append_inj' (calls.symm.trans otherCalls) rfl).2
  have closed := List.append_cancel_left (window.closed.symm.trans other.closed)
  have fixes := window.fixes.trans other.fixes.symm
  rcases course with ⟨_, _, _, _⟩
  rcases otherCourse with ⟨_, _, _, _⟩
  simp_all

private theorem accepted_of_calls (window : closing.ClosesWindow idle opening course)
    (opens : ∀ call ∈ opening.calls, call.accepted = true)
    (closes : ∀ call ∈ closing.calls, call.accepted = true) : course.Accepted := by
  have agreed (answer : Except Pulse.Failure Unit) (accepted : answer.isOk = true) :
      answer = .ok () := by
    cases answer with
    | ok reply => rfl
    | error failure => cases accepted
  rcases window.started with ⟨earlier, calls⟩
  exact ⟨agreed _ (opens ⟨.pulse .startDrift, course.started⟩ (by simp [calls])),
    agreed _ (closes ⟨.pulse .stopDrift, course.stopped⟩ (by simp [window.closed]))⟩

end Tick.ClosesWindow

/-- A drift rate counts only if the driver has agreed to open its window and to close
it. -/
def CountsAcceptedWindows (past : List (Tick devices)) : Prop :=
  ∀ closing earlier rate, closing :: earlier <:+ past →
    closing.after.driftResult = some (.ok rate) →
      ∃ idle opening older course, earlier = idle ++ opening :: older ∧
        closing.ClosesWindow idle opening course ∧ course.Accepted

def CountsRefusedWindow (past : List (Tick devices)) : Prop :=
  ∃ closing idle opening older course, closing :: (idle ++ opening :: older) <:+ past ∧
    closing.ClosesWindow idle opening course ∧ course.Miscounted

namespace Run

variable {timings : Sync.Timings} {past : List (Tick devices)} {station : Station}

private theorem countsAccepted_iff_not_refused (run : Run devices timings past station) :
    CountsAcceptedWindows past ↔ ¬CountsRefusedWindow past := by
  constructor
  · rintro counts
      ⟨closing, idle, opening, older, course, suffix, window, refused, rate, has⟩
    rcases (run.of_suffix suffix).comesTo_of_closesWindow window with
      ⟨result, handed, comes⟩
    rw [(comes.rate rate).mpr has] at handed
    rcases counts closing _ rate suffix handed with
      ⟨otherIdle, otherOpening, otherOlder, otherCourse, same, other, accepted⟩
    rw [← window.unique other same] at accepted
    exact refused accepted
  · intro sound closing earlier rate suffix handed
    have reached := run.of_suffix suffix
    rcases reached.exists_closesWindow (reached.finishes_of_driftResult handed) with
      ⟨idle, opening, older, course, rfl, window⟩
    rcases reached.comesTo_of_closesWindow window with ⟨result, given, comes⟩
    cases given.symm.trans handed
    refine ⟨idle, opening, older, course, rfl, window, ?_⟩
    exact comes.accepted_iff.mpr
      (fun miscounted =>
        sound ⟨closing, idle, opening, older, course, suffix, window, miscounted⟩)
      rate rfl

end Run

/-- Taken alone or in a run, the rates of accepted windows only count if and only if no
refused window has a rate. -/
theorem acceptedWindowsOnly_iff (devices : Devices World) :
    (∀ (before : DriftWindow) (opening : World) (fixes : List Bool) (closing : World),
      let course := DriftWindow.course devices opening fixes closing
      (∀ rate,
        before.measure devices opening fixes closing = .ok rate → course.Accepted) ↔
        ¬course.Miscounted) ∧
    ∀ (timings : Sync.Timings) (past : List (Tick devices)) (station : Station),
      Run devices timings past station →
        (CountsAcceptedWindows past ↔ ¬CountsRefusedWindow past) :=
  ⟨fun before opening fixes closing =>
      (DriftWindow.comesTo_measure devices before opening fixes closing).accepted_iff,
    fun _ _ _ run => run.countsAccepted_iff_not_refused⟩

theorem acceptedWindowsOnly_of_steadyClock :
    ∃ (past : List (Tick Script.devices)) (station : Station),
      Run Script.devices .standard past station ∧
        replay? Script.devices .standard (atIntervals (List.replicate 18 (dated today))) =
          some (past.map Tick.played, station.bare) ∧
        station.sync.phase = .measureError ∧ CountsAcceptedWindows past := by
  have replays : ((replay? Script.devices .standard
      (atIntervals (List.replicate 18 (dated today)))).map fun run =>
        (run.2.sync.phase, run.1.all fun played => played.calls.all Call.accepted)) =
      some (.measureError, true) := by
    decide +kernel
  rcases exists_run_of_reads replays with ⟨past, station, run, replays, reads⟩
  simp only [Prod.mk.injEq, all_played_iff] at reads
  have accepts : ∀ tick ∈ past, ∀ call ∈ tick.calls, call.accepted = true :=
    fun tick member => List.all_eq_true.mp (reads.2 tick member)
  refine ⟨past, station, run, replays, reads.1,
    ((acceptedWindowsOnly_iff Script.devices).2 _ past station run).mpr ?_⟩
  rintro ⟨closing, idle, opening, older, course, suffix, window, refused, -⟩
  exact refused (window.accepted_of_calls (accepts opening (suffix.subset (by simp)))
    (accepts closing (suffix.subset (by simp))))

def refusedWindows : List Script :=
  List.replicate 18 { dated today with refused := [.startDrift] }

theorem not_countsAcceptedWindows_of_refusedWindows :
    ∃ (past : List (Tick Script.devices)) (station : Station),
      Run Script.devices .standard past station ∧
        replay? Script.devices .standard (atIntervals refusedWindows) =
          some (past.map Tick.played, station.bare) ∧
        station.sync.phase = .measureError ∧
        (∀ tick ∈ past, ⟨.pulse .startDrift, .ok ()⟩ ∉ tick.calls) ∧
        ¬CountsAcceptedWindows past := by
  have replays :
      ((replay? Script.devices .standard (atIntervals refusedWindows)).map fun run =>
      (run.2.sync.phase, run.1.any fun played => played.after.driftResult.any Except.isOk,
        run.1.all fun played => played.calls.all fun call =>
          call.request ≠ .pulse .startDrift || !call.accepted)) =
      some (.measureError, true, true) := by
    decide +kernel
  rcases exists_run_of_reads replays with ⟨past, station, run, replays, reads⟩
  simp only [Prod.mk.injEq, any_played_iff, all_played_iff] at reads
  rcases reads with ⟨phase, ⟨closing, member, handed⟩, refuses⟩
  have unopened : ∀ tick ∈ past, ⟨.pulse .startDrift, .ok ()⟩ ∉ tick.calls := by
    intro tick within called
    have refused := List.all_eq_true.mp (refuses tick within) _ called
    cases refused
  refine ⟨past, station, run, replays, phase, unopened, fun counts => ?_⟩
  rcases exists_rate_of_isOk handed with ⟨rate, result⟩
  rcases run.exists_suffix_of_mem member with ⟨earlier, suffix, -⟩
  rcases counts closing earlier rate suffix result with
    ⟨idle, opening, older, course, rfl, window, accepted, -⟩
  rcases window.started with ⟨first, calls⟩
  rw [accepted] at calls
  exact unopened opening (suffix.subset (by simp)) (by simp [calls])

end Station

end ClockDiscipline
