import ClockDiscipline.Proofs.Station.TimeSetting

/-!
What becomes of a request that the driver refuses. The station makes it once and counts it
as served in any case, so it can rely on the time only if the driver has refused nothing.
-/

namespace ClockDiscipline.Station

variable {World : Type} {devices : Devices World}

namespace Tick

variable (tick : Tick devices)

def TimeAccepted : Prop := ∃ time, ⟨.pulse (.setTime time), .ok ()⟩ ∈ tick.calls

def TimeRefused : Prop :=
  ∃ time failure, ⟨.pulse (.setTime time), .error failure⟩ ∈ tick.calls

variable {tick}

private theorem times_eq_filterMap :
    tick.times = tick.calls.filterMap fun call => call.request.time? := by
  rw [times, requests, timesSet, List.filterMap_map]
  rfl

private theorem accepted_or_refused (told : tick.times ≠ []) :
    tick.TimeAccepted ∨ tick.TimeRefused := by
  rcases List.exists_mem_of_ne_nil _ told with ⟨time, member⟩
  rw [times_eq_filterMap, List.mem_filterMap] at member
  rcases member with ⟨⟨request, answer⟩, called, sets⟩
  cases request with
  | pulse request =>
      cases request with
      | setTime time =>
          cases answer with
          | ok reply => exact .inl ⟨time, called⟩
          | error failure => exact .inr ⟨time, failure, called⟩
      | _ => cases sets
  | _ => cases sets

private theorem times_ne_nil_of_call {time : Timestamp}
    {answer : (Request.pulse (.setTime time)).Answer}
    (called : ⟨.pulse (.setTime time), answer⟩ ∈ tick.calls) : tick.times ≠ [] := by
  have listed : time ∈ tick.times := by
    rw [times_eq_filterMap, List.mem_filterMap]
    exact ⟨_, called, rfl⟩
  exact List.ne_nil_of_mem listed

private theorem length_times_le : tick.times.length ≤ 1 := by
  rw [times_eq]
  split
  · cases tick.sentences.findSome? Nmea.Sentence.utc? <;> simp
  · exact Nat.zero_le _

private theorem not_accepted_of_refused (refused : tick.TimeRefused) :
    ¬tick.TimeAccepted := by
  rintro ⟨time, accepts⟩
  rcases refused with ⟨other, failure, refuses⟩
  -- Both calls would set a time, and a poll sets one at most.
  have single := tick.length_times_le
  rcases List.append_of_mem accepts with ⟨early, late, calls⟩
  have own : Request.time? (.pulse (.setTime time)) = some time := rfl
  rw [times_eq_filterMap, calls] at single
  simp only [List.filterMap_append, List.filterMap_cons, own, List.length_append,
    List.length_cons] at single
  rw [calls, List.mem_append, List.mem_cons] at refuses
  have listed (part : List Call)
      (member : ⟨.pulse (.setTime other), .error failure⟩ ∈ part) :
      0 < (part.filterMap fun call => call.request.time?).length :=
    List.length_pos_of_mem (List.mem_filterMap.mpr ⟨_, member, rfl⟩)
  rcases refuses with before | same | after
  · have := listed early before
    omega
  · simp at same
  · have := listed late after
    omega

private theorem served_of_times {timings : Sync.Timings} {past : List (Tick devices)}
    (run : Run devices timings past tick.before) (told : tick.times ≠ []) :
    tick.after.reception.timeSetting = .served := by
  rw [ne_eq, tick.times_eq_nil_iff, Classical.not_imp, Bool.not_eq_false] at told
  have silent : ¬tick.RequestsTime :=
    tick.not_requestsTime_of_set (run.times_eq_nil_of_pending told.1).1
  rw [tick.timeSetting_after silent, tick.timeSetting_heard, told.1, told.2]
  rfl

end Tick

/-! ## Which requests count -/

/-- The time counts as set only once the driver has accepted it, and a refused request
stays pending. -/
structure CountsAcceptedOnly (past : List (Tick devices)) : Prop where
  done : ∀ tick earlier, tick :: earlier <:+ past →
    tick.after.reception.timeSetting.done = true →
      ∃ accepting ∈ tick :: earlier, accepting.TimeAccepted
  settled : ∀ tick earlier, tick :: earlier <:+ past → tick.before.sync.phase ≠ .settle2 →
    tick.after.sync.phase = .settle2 →
      ∃ accepting ∈ tick :: earlier, accepting.TimeAccepted
  kept : ∀ tick ∈ past, tick.TimeRefused → ¬tick.TimeAccepted →
    tick.after.reception.timeSetting.pending = true

namespace Run

variable {timings : Sync.Timings} {past : List (Tick devices)} {station : Station}

private theorem exists_times_of_done (run : Run devices timings past station)
    (done : station.reception.timeSetting.done = true) :
    ∃ tick ∈ past, tick.times ≠ [] := by
  induction run with
  | start => cases done
  | poll tick run induction =>
      by_cases told : tick.times = []
      · have silent : ¬tick.RequestsTime := fun requests => by
          rw [tick.timeSetting_after_of_request requests] at done
          cases done
        rw [tick.timeSetting_after silent, tick.timeSetting_heard] at done
        split at done
        · rename_i heard
          rw [Bool.and_eq_true] at heard
          have unheard := tick.times_eq_nil_iff.mp told heard.1
          rw [heard.2] at unheard
          cases unheard
        · rcases induction done with ⟨other, member, tells⟩
          exact ⟨other, List.mem_cons_of_mem _ member, tells⟩
      · exact ⟨tick, List.mem_cons_self, told⟩

private theorem done_of_settle2 {tick : Tick devices}
    (outside : tick.before.sync.phase ≠ .settle2)
    (enters : tick.after.sync.phase = .settle2) :
    tick.after.reception.timeSetting.done = true := by
  have silent : ¬tick.RequestsTime := tick.not_requestsTime_of_phase (by simp [enters])
  rw [tick.timeSetting_after silent, ← tick.timeSetting_observed]
  exact tick.rule.of_settle2 enters outside

/-- Only what the driver accepts counts if and only if the driver refuses nothing. -/
theorem countsAcceptedOnly_iff (run : Run devices timings past station) :
    CountsAcceptedOnly past ↔ ∀ tick ∈ past, ¬tick.TimeRefused := by
  constructor
  · intro counts tick member refused
    rcases run.exists_suffix_of_mem member with ⟨earlier, -, before⟩
    have pending := counts.kept tick member refused (Tick.not_accepted_of_refused refused)
    rcases refused with ⟨time, failure, called⟩
    rw [Tick.served_of_times before (Tick.times_ne_nil_of_call called)] at pending
    cases pending
  · intro unrefused
    have accepts (tick : Tick devices) (earlier : List (Tick devices))
        (suffix : tick :: earlier <:+ past)
        (done : tick.after.reception.timeSetting.done = true) :
        ∃ accepting ∈ tick :: earlier, accepting.TimeAccepted := by
      rcases (run.of_suffix suffix).exists_times_of_done done with
        ⟨accepting, member, told⟩
      exact ⟨accepting, member, (Tick.accepted_or_refused told).resolve_right
        (unrefused accepting (suffix.subset member))⟩
    exact ⟨accepts, fun tick earlier suffix outside enters =>
        accepts tick earlier suffix (done_of_settle2 outside enters),
      fun tick member refused => absurd refused (unrefused tick member)⟩

end Run

theorem countsAcceptedOnly_of_steadyClock :
    ∃ (past : List (Tick Script.devices)) (station : Station),
      Run Script.devices .standard past station ∧
        replay? Script.devices .standard (atIntervals (List.replicate 7 (dated today))) =
          some (past.map Tick.played, station.bare) ∧
        station.sync.phase = .settle2 ∧ CountsAcceptedOnly past := by
  have replays : ((replay? Script.devices .standard
      (atIntervals (List.replicate 7 (dated today)))).map fun run =>
        (run.2.sync.phase, run.1.all fun played => played.calls.all Call.accepted)) =
      some (.settle2, true) := by
    decide +kernel
  rcases exists_run_of_reads replays with ⟨past, station, run, replays, reads⟩
  simp only [Prod.mk.injEq, List.all_eq_true, List.mem_map, forall_exists_index, and_imp,
    forall_apply_eq_imp_iff₂] at reads
  refine ⟨past, station, run, replays, reads.1, run.countsAcceptedOnly_iff.mpr ?_⟩
  rintro tick member ⟨time, failure, called⟩
  have accepted := reads.2 tick member _ called
  cases accepted

def refusingDriver : List Script :=
  List.replicate 6 (dated today) ++ [{ dated today with refused := [.setTime] }]

/-- A refused request counts as served, and the station goes on. -/
theorem not_countsAcceptedOnly_of_refusingDriver :
    ∃ (past : List (Tick Script.devices)) (station : Station),
      Run Script.devices .standard past station ∧
        replay? Script.devices .standard (atIntervals refusingDriver) =
          some (past.map Tick.played, station.bare) ∧
        station.sync.phase = .settle2 ∧ station.reception.timeSetting = .served ∧
        (∀ tick ∈ past, ¬tick.TimeAccepted) ∧ ¬CountsAcceptedOnly past := by
  have replays :
      ((replay? Script.devices .standard (atIntervals refusingDriver)).map fun run =>
      (run.2.sync.phase, run.2.reception.timeSetting, run.1.all fun played =>
        played.calls.all fun call => call.request.time?.isNone || !call.accepted)) =
      some (.settle2, .served, true) := by
    decide +kernel
  rcases exists_run_of_reads replays with ⟨past, station, run, replays, reads⟩
  simp only [Prod.mk.injEq, List.all_eq_true, List.mem_map, forall_exists_index, and_imp,
    forall_apply_eq_imp_iff₂] at reads
  rcases reads with ⟨phase, setting, unaccepted⟩
  have phase : station.sync.phase = .settle2 := phase
  have setting : station.reception.timeSetting = .served := setting
  have nowhere : ∀ tick ∈ past, ¬tick.TimeAccepted := by
    rintro tick member ⟨time, called⟩
    have absurd := unaccepted tick member _ called
    cases absurd
  refine ⟨past, station, run, replays, phase, setting, nowhere, fun counts => ?_⟩
  cases run with
  | start => cases phase
  | poll tick run =>
      rcases counts.done tick _ (List.suffix_refl _) (by rw [setting]; rfl) with
        ⟨accepting, member, accepts⟩
      exact nowhere accepting member accepts

end ClockDiscipline.Station
