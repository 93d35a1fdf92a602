import ClockDiscipline.Proofs.Station.Completion

/-!
What becomes of a rate that the clock refuses. The station remembers the rates that it has
asked for, so its feedback starts from those in force only if it remembers no refused
ones.
-/

namespace ClockDiscipline.Station

variable {World : Type} {devices : Devices World}

/-! ## Rates in force -/

/-- The parts of the rate that the clock has accepted last, both zero if it has accepted
none since the station was new. -/
def ratesInForce : (past : List (Tick devices)) → Float × Float
  | [] => (0, 0)
  | tick :: earlier =>
      if tick.Accepted Request.isAdjustment then tick.after.sync.compensation.memory
      else ratesInForce earlier

def FollowsClock (past : List (Tick devices)) : Prop :=
  ∀ tick earlier, tick :: earlier <:+ past → tick.Completes →
    tick.before.sync.compensation.memory = ratesInForce earlier

/-- The latest synchronisation was refused, and its rates are not those in force. -/
def RefusedLast (past : List (Tick devices)) : Prop :=
  ∃ since refusing older,
    past = since ++ refusing :: older ∧ (∀ tick ∈ since, ¬tick.Completes) ∧
    refusing.Refused Request.isAdjustment ∧
    refusing.after.sync.compensation.memory ≠ ratesInForce older

/-- A synchronisation follows on one that was refused and whose rates are not in force. -/
def FeedsRefusedRates (past : List (Tick devices)) : Prop :=
  ∃ tick earlier, tick :: earlier <:+ past ∧ tick.Completes ∧ RefusedLast earlier

/-! ## One poll -/

section Poll

variable {tick : Tick devices} {past : List (Tick devices)}

private theorem accepted_or_refused_of_completes (completes : tick.Completes) :
    tick.Accepted Request.isAdjustment ∨ tick.Refused Request.isAdjustment := by
  apply Tick.asked_ne_nil_iff.mp
  rw [Tick.asked_isAdjustment completes]
  exact List.cons_ne_nil _ _

private theorem completes_of_asked (asks : tick.asked Request.isAdjustment ≠ []) :
    tick.Completes := by
  by_contra incomplete
  exact asks (Tick.asked_of_incomplete Request.onCompletion_isAdjustment incomplete)

private theorem memory_of_incomplete (incomplete : ¬tick.Completes) :
    tick.after.sync.compensation.memory = tick.before.sync.compensation.memory := by
  apply tick.rule.memory_eq
  intro adjustment applies
  exact incomplete (Sync.Transition.completes_iff.mpr ⟨adjustment, applies⟩)

private theorem ratesInForce_of_incomplete (incomplete : ¬tick.Completes) :
    ratesInForce (tick :: past) = ratesInForce past := by
  have unaccepted : ¬tick.Accepted Request.isAdjustment := fun accepted =>
    incomplete (completes_of_asked (Tick.asked_ne_nil_iff.mpr (.inl accepted)))
  rw [ratesInForce, if_neg unaccepted]

private theorem refusedLast_iff_of_incomplete (incomplete : ¬tick.Completes) :
    RefusedLast (tick :: past) ↔ RefusedLast past := by
  constructor
  · rintro ⟨since, refusing, older, whole, silent, refuses, differs⟩
    cases since with
    | nil =>
        cases whole
        exact absurd
          (completes_of_asked (Tick.asked_ne_nil_iff.mpr (.inr refuses))) incomplete
    | cons newest since =>
        cases whole
        exact ⟨since, refusing, older, rfl,
          fun tick member => silent tick (.tail _ member), refuses, differs⟩
  · rintro ⟨since, refusing, older, rfl, silent, refuses, differs⟩
    exact ⟨tick :: since, refusing, older, rfl,
      List.forall_mem_cons.mpr ⟨incomplete, silent⟩, refuses, differs⟩

private theorem refusedLast_iff_of_completes (completes : tick.Completes) :
    RefusedLast (tick :: past) ↔ tick.Refused Request.isAdjustment ∧
      tick.after.sync.compensation.memory ≠ ratesInForce past := by
  constructor
  · rintro ⟨since, refusing, older, whole, silent, refuses, differs⟩
    cases since with
    | nil =>
        cases whole
        exact ⟨refuses, differs⟩
    | cons newest since =>
        cases whole
        exact absurd completes (silent tick List.mem_cons_self)
  · rintro ⟨refuses, differs⟩
    exact ⟨[], tick, past, rfl, by simp, refuses, differs⟩

private theorem ratesInForce_of_unaccepted
    (none : ∀ tick ∈ past, ¬tick.Accepted Request.isAdjustment) :
    ratesInForce past = (0, 0) := by
  induction past with
  | nil => rfl
  | cons tick earlier induction =>
      rw [ratesInForce, if_neg (none tick List.mem_cons_self)]
      exact induction fun other member => none other (List.mem_cons_of_mem _ member)

end Poll

/-! ## All polls -/

namespace Run

variable {timings : Sync.Timings} {past : List (Tick devices)} {station : Station}

private theorem memory_eq_iff (run : Run devices timings past station) :
    station.sync.compensation.memory = ratesInForce past ↔ ¬RefusedLast past := by
  induction run with
  | start =>
      constructor
      · rintro - ⟨since, refusing, older, whole, -⟩
        simp at whole
      · exact fun _ => rfl
  | @poll past tick run induction =>
      by_cases completes : tick.Completes
      · rw [refusedLast_iff_of_completes completes]
        by_cases accepted : tick.Accepted Request.isAdjustment
        · have once :
              ([tick].flatMap fun tick => tick.asked Request.isAdjustment).length ≤
                1 := by
            rw [List.flatMap_singleton, Tick.asked_isAdjustment completes]
            exact le_rfl
          have unrefused : ¬tick.Refused Request.isAdjustment := fun refused =>
            Tick.not_accepted_of_once once (.head _) (.head _) refused accepted
          rw [ratesInForce, if_pos accepted]
          exact iff_of_true rfl fun refused => unrefused refused.1
        · have refused :=
            (accepted_or_refused_of_completes completes).resolve_left accepted
          rw [ratesInForce, if_neg accepted, not_and_not_right]
          exact ⟨fun same _ => same, fun same => same refused⟩
      · rw [ratesInForce_of_incomplete completes, refusedLast_iff_of_incomplete completes,
          memory_of_incomplete completes]
        exact induction

/-- The feedback follows the clock if and only if refused rates are not fed back. -/
theorem followsClock_iff (run : Run devices timings past station) :
    FollowsClock past ↔ ¬FeedsRefusedRates past := by
  have starts (tick : Tick devices) (earlier : List (Tick devices))
      (suffix : tick :: earlier <:+ past) :
      tick.before.sync.compensation.memory = ratesInForce earlier ↔
        ¬RefusedLast earlier :=
    (run.of_suffix suffix).of_cons.1.memory_eq_iff
  constructor
  · rintro follows ⟨tick, earlier, suffix, completes, refused⟩
    exact (starts tick earlier suffix).mp (follows tick earlier suffix completes) refused
  · intro sound tick earlier suffix completes
    exact (starts tick earlier suffix).mpr
      fun refused => sound ⟨tick, earlier, suffix, completes, refused⟩

end Run

theorem followsClock_of_fastClock :
    ∃ (past : List (Tick Script.devices)) (station : Station),
      Run Script.devices everyMinute past station ∧
        replay? Script.devices everyMinute (atIntervals (List.replicate 41 fastClock)) =
          some (past.map Tick.played, station.bare) ∧
        past.countP (fun tick => tick.Completes) = 2 ∧
        station.sync.compensation.memory ≠ (0, 0) ∧ FollowsClock past := by
  rcases exists_run_of_fastClock with
    ⟨past, station, run, replays, twice, differs, accepts⟩
  refine ⟨past, station, run, replays, twice, differs, run.followsClock_iff.mpr ?_⟩
  rintro ⟨tick, earlier, suffix, -, since, refusing, older, rfl, -, refused, -⟩
  exact Tick.not_refused_of_all (accepts refusing (suffix.subset (by simp))) refused

/-- The clock refuses the rate of the first synchronisation, and yet the second starts
from it. -/
theorem not_followsClock_of_refusedOnce :
    ∃ (past : List (Tick Script.devices)) (station : Station),
      Run Script.devices everyMinute past station ∧
        replay? Script.devices everyMinute (atIntervals (refusedOnce .adjust)) =
          some (past.map Tick.played, station.bare) ∧
        (∃ tick earlier, past = tick :: earlier ∧ tick.Completes ∧
          (∀ other ∈ earlier, ¬other.Accepted Request.isAdjustment) ∧
          tick.before.sync.compensation.memory ≠ (0, 0)) ∧
        ¬FollowsClock past := by
  have replays : ((replay? Script.devices everyMinute
      (atIntervals (refusedOnce .adjust))).map fun run =>
        (run.1.head?.map fun played => (decide played.transition.Completes,
            decide (played.before.sync.compensation.memory ≠ (0, 0))),
          run.1.tail.all fun played => played.calls.all fun call =>
            !call.request.isAdjustment || !call.accepted)) = some (some (true, true),
              true) := by
    decide +kernel
  rcases exists_run_of_reads replays with ⟨past, station, run, replays, reads⟩
  rcases Prod.mk.inj reads with ⟨newest, refuses⟩
  rcases exists_newest_of_head newest with ⟨tick, earlier, rfl, reading⟩
  rcases Prod.mk.inj reading with ⟨completes, differs⟩
  have completes : tick.Completes := of_decide_eq_true completes
  have differs := of_decide_eq_true differs
  have unaccepted : ∀ other ∈ earlier, ¬other.Accepted Request.isAdjustment :=
    fun other member => Tick.not_accepted_of_all (all_played_iff.mp refuses other member)
  refine ⟨tick :: earlier, station, run, replays,
    ⟨tick, earlier, rfl, completes, unaccepted, differs⟩, fun follows => differs ?_⟩
  rw [← ratesInForce_of_unaccepted unaccepted]
  exact follows tick earlier (List.suffix_refl _) completes

end ClockDiscipline.Station
