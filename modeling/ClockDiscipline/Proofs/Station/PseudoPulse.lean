import ClockDiscipline.Proofs.Station.Completion

/-!
What becomes of the request for pseudo pulses. A station makes it once in its life, with
the first synchronisation that it completes, and counts it as served in any case.
-/

namespace ClockDiscipline.Station

variable {World : Type} {devices : Devices World}

/-- Until the driver has accepted the request each completed synchronisation makes it, and
then it is made no more. -/
structure RetriesPseudoPulse (past : List (Tick devices)) : Prop where
  asks : ∀ tick earlier, tick :: earlier <:+ past → tick.Completes →
    (∀ other ∈ earlier, ¬other.Accepted Request.isPseudoPulse) →
      tick.asked Request.isPseudoPulse = [.pulse .startPseudoPulse]
  once : ∀ tick ∈ past, (tick.asked Request.isPseudoPulse).length ≤ 1
  stops : ∀ tick earlier, tick :: earlier <:+ past →
    (∃ other ∈ earlier, other.Accepted Request.isPseudoPulse) →
      tick.asked Request.isPseudoPulse = []

/-- A synchronisation is completed after the driver has refused the request. -/
def OutlivesRefusal (past : List (Tick devices)) : Prop :=
  ∃ tick earlier, tick :: earlier <:+ past ∧ tick.Completes ∧
    ∃ refusing ∈ earlier, refusing.Refused Request.isPseudoPulse

namespace Tick

variable {tick : Tick devices}

private theorem asked_append {past : List Request}
    (soFar : past =
      if tick.before.sync.pseudoPulseRunning then [.pulse .startPseudoPulse] else []) :
    tick.asked Request.isPseudoPulse ++ past =
      if tick.after.sync.pseudoPulseRunning then [.pulse .startPseudoPulse] else [] := by
  rcases tick.completion_cases with
    ⟨error, completes, -, -, running⟩ | ⟨incomplete, -, running⟩
  · rw [asked_isPseudoPulse completes, soFar, running]
    cases tick.before.sync.pseudoPulseRunning <;> rfl
  · rw [asked_of_incomplete Request.onCompletion_isPseudoPulse incomplete, running]
    exact soFar

end Tick

namespace Run

variable {timings : Sync.Timings} {past : List (Tick devices)} {station : Station}

private theorem asked_eq (run : Run devices timings past station) :
    past.flatMap (fun tick => tick.asked Request.isPseudoPulse) =
      if station.sync.pseudoPulseRunning then [.pulse .startPseudoPulse] else [] := by
  induction run with
  | start => rfl
  | poll tick run induction =>
      rw [List.flatMap_cons]
      exact Tick.asked_append induction

private theorem asked_length_le (run : Run devices timings past station) :
    (past.flatMap fun tick => tick.asked Request.isPseudoPulse).length ≤ 1 := by
  rw [run.asked_eq]
  split
  · exact le_rfl
  · exact Nat.zero_le 1

private theorem running_iff (run : Run devices timings past station) :
    station.sync.pseudoPulseRunning = true ↔
      ∃ tick ∈ past, tick.asked Request.isPseudoPulse ≠ [] := by
  have asked := run.asked_eq
  cases running : station.sync.pseudoPulseRunning with
  | true =>
      rw [running, if_pos rfl] at asked
      refine iff_of_true rfl ?_
      by_contra none
      simp only [not_exists, not_and, not_not] at none
      rw [List.flatMap_eq_nil_iff.mpr none] at asked
      cases asked
  | false =>
      rw [running, if_neg Bool.false_ne_true] at asked
      refine iff_of_false Bool.false_ne_true ?_
      rintro ⟨tick, member, asks⟩
      exact asks (List.flatMap_eq_nil_iff.mp asked tick member)

private theorem asked_of_made {tick : Tick devices}
    (run : Run devices timings past tick.before)
    (made : ∃ other ∈ past, other.asked Request.isPseudoPulse ≠ []) :
    tick.asked Request.isPseudoPulse = [] := by
  by_cases completes : tick.Completes
  · rw [Tick.asked_isPseudoPulse completes, if_pos (run.running_iff.mpr made)]
  · exact Tick.asked_of_incomplete Request.onCompletion_isPseudoPulse completes

/-- A request that the driver refuses is never made again, so the law holds if and only if
no synchronisation comes after a refusal. -/
theorem retriesPseudoPulse_iff (run : Run devices timings past station) :
    RetriesPseudoPulse past ↔ ¬OutlivesRefusal past := by
  constructor
  · rintro retries ⟨tick, earlier, suffix, completes, refusing, member, refused⟩
    have before := (run.of_suffix suffix).of_cons.1
    have unaccepted : ∀ other ∈ earlier, ¬other.Accepted Request.isPseudoPulse :=
      fun other also =>
        Tick.not_accepted_of_once before.asked_length_le member also refused
    have silent : tick.asked Request.isPseudoPulse = [] :=
      before.asked_of_made ⟨refusing, member, Tick.asked_ne_nil_iff.mpr (.inr refused)⟩
    rw [retries.asks tick earlier suffix completes unaccepted] at silent
    cases silent
  · intro sound
    constructor
    case asks =>
      intro tick earlier suffix completes unaccepted
      have before := (run.of_suffix suffix).of_cons.1
      have idle : ¬tick.before.sync.pseudoPulseRunning = true := by
        intro running
        rcases before.running_iff.mp running with ⟨other, member, asks⟩
        rcases Tick.asked_ne_nil_iff.mp asks with accepted | refused
        · exact unaccepted other member accepted
        · exact sound ⟨tick, earlier, suffix, completes, other, member, refused⟩
      rw [Tick.asked_isPseudoPulse completes, if_neg idle]
    case once =>
      intro tick member
      rcases run.exists_suffix_of_mem member with ⟨earlier, suffix, -⟩
      have once := (run.of_suffix suffix).asked_length_le
      rw [List.flatMap_cons, List.length_append] at once
      exact (Nat.le_add_right _ _).trans once
    case stops =>
      rintro tick earlier suffix ⟨other, member, accepted⟩
      exact (run.of_suffix suffix).of_cons.1.asked_of_made
        ⟨other, member, Tick.asked_ne_nil_iff.mpr (.inl accepted)⟩

end Run

theorem retriesPseudoPulse_of_fastClock :
    ∃ (past : List (Tick Script.devices)) (station : Station),
      Run Script.devices everyMinute past station ∧
        replay? Script.devices everyMinute (atIntervals (List.replicate 41 fastClock)) =
          some (past.map Tick.played, station.bare) ∧
        past.countP (fun tick => tick.Completes) = 2 ∧ RetriesPseudoPulse past := by
  rcases exists_run_of_fastClock with ⟨past, station, run, replays, twice, -, accepts⟩
  refine ⟨past, station, run, replays, twice, run.retriesPseudoPulse_iff.mpr ?_⟩
  rintro ⟨tick, earlier, suffix, -, refusing, member, refused⟩
  exact Tick.not_refused_of_all
    (accepts refusing (suffix.subset (.tail _ member))) refused

/-- The driver refuses pseudo pulses at the first synchronisation, and the second does not
ask for them. -/
theorem not_retriesPseudoPulse_of_refusedOnce :
    ∃ (past : List (Tick Script.devices)) (station : Station),
      Run Script.devices everyMinute past station ∧
        replay? Script.devices everyMinute (atIntervals (refusedOnce .startPseudoPulse)) =
          some (past.map Tick.played, station.bare) ∧
        (∃ tick earlier, past = tick :: earlier ∧ tick.Completes ∧
          (∀ other ∈ earlier, ¬other.Accepted Request.isPseudoPulse) ∧
          tick.asked Request.isPseudoPulse = []) ∧
        ¬RetriesPseudoPulse past := by
  have replays : ((replay? Script.devices everyMinute
      (atIntervals (refusedOnce .startPseudoPulse))).map fun run =>
        (run.1.head?.map fun played => (decide played.transition.Completes,
            played.calls.all fun call => !call.request.isPseudoPulse),
          run.1.tail.all fun played => played.calls.all fun call =>
            !call.request.isPseudoPulse || !call.accepted)) = some (some (true, true),
              true) := by
    decide +kernel
  rcases exists_run_of_reads replays with ⟨past, station, run, replays, reads⟩
  rcases Prod.mk.inj reads with ⟨newest, refuses⟩
  rcases exists_newest_of_head newest with ⟨tick, earlier, rfl, reading⟩
  rcases Prod.mk.inj reading with ⟨completes, silent⟩
  have completes : tick.Completes := of_decide_eq_true completes
  have unaccepted : ∀ other ∈ earlier, ¬other.Accepted Request.isPseudoPulse :=
    fun other member => Tick.not_accepted_of_all (all_played_iff.mp refuses other member)
  have unasked : tick.asked Request.isPseudoPulse = [] := by
    apply List.filter_eq_nil_iff.mpr
    intro request member starts
    rcases List.mem_map.mp member with ⟨call, called, rfl⟩
    have other := List.all_eq_true.mp silent call called
    rw [starts] at other
    cases other
  refine ⟨tick :: earlier, station, run, replays,
    ⟨tick, earlier, rfl, completes, unaccepted, unasked⟩, fun retries => ?_⟩
  have asked := retries.asks tick earlier (List.suffix_refl _) completes unaccepted
  rw [unasked] at asked
  cases asked

end ClockDiscipline.Station
