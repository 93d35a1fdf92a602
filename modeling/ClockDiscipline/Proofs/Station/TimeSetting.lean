import ClockDiscipline.Proofs.Station.Replay

/-!
Setting the time. Synchronisation asks for it once in a run, and the next sentence that
tells a usable second leads to the one request that the driver gets, in whatever phase the
station is by then and however the driver answers.
-/

namespace ClockDiscipline

/-! ## Which parts of a poll set the time -/

private theorem timesSet_requests (station : Station) (effect : Sync.Effect) :
    timesSet (station.requests effect) = [] := by
  cases effect with
  | sendInit index =>
      show timesSet (Nmea.initialisation[index]?.toList.map Request.write) = []
      cases Nmea.initialisation[index]? <;> rfl
  | _ => rfl

namespace Station

variable {World : Type} {devices : Devices World}

private theorem timeSetting_act_of_not_mem (effects : List Sync.Effect) :
    ∀ (station : Station) (world : World), .requestTimeSet ∉ effects →
      (act devices effects station world).reception.timeSetting =
        station.reception.timeSetting := by
  induction effects with
  | nil => exact fun _ _ _ => rfl
  | cons effect rest induction =>
      intro station world absent
      rw [List.mem_cons, not_or] at absent
      rw [act, induction _ _ absent.2]
      cases effect with
      | requestTimeSet => exact absurd rfl absent.1
      | _ => rfl

private theorem timeSetting_act_of_mem (effects : List Sync.Effect) :
    ∀ (station : Station) (world : World), .requestTimeSet ∈ effects →
      (act devices effects station world).reception.timeSetting = .requested := by
  induction effects with
  | nil => exact fun _ _ member => absurd member List.not_mem_nil
  | cons effect rest induction =>
      intro station world member
      by_cases later : .requestTimeSet ∈ rest
      · exact induction _ _ later
      · rcases List.mem_cons.mp member with rfl | member
        · rw [act, timeSetting_act_of_not_mem rest _ _ later]
          rfl
        · exact absurd member later

namespace Tick

variable (tick : Tick devices)

def RequestsTime : Prop := .requestTimeSet ∈ tick.step.effects

def hearsSecond : Bool := tick.sentences.any (·.utc?.isSome)

def times : List Timestamp := timesSet tick.requests

theorem times_eq : tick.times =
    if tick.before.reception.timeSetting.pending then
      (tick.sentences.findSome? Nmea.Sentence.utc?).toList.map fun utc =>
        .ofSeconds (utc + 1)
    else [] := by
  have silent : timesSet tick.actingRequests = [] := by
    rw [actingRequests, timesSet, List.filterMap_flatMap, List.flatMap_eq_nil_iff]
    exact fun effect _ => timesSet_requests tick.acting effect
  rw [times, requests_eq, timesSet_append, silent, List.append_nil, tick.hears.timesSet]

theorem times_eq_nil_iff : tick.times = [] ↔
    tick.before.reception.timeSetting.pending = true → tick.hearsSecond = false := by
  have heard : tick.sentences.findSome? Nmea.Sentence.utc? = none ↔
      tick.hearsSecond = false := by
    simp [hearsSecond]
  rw [times_eq, ← heard]
  cases tick.before.reception.timeSetting.pending <;>
    cases tick.sentences.findSome? Nmea.Sentence.utc? <;> simp

private theorem times_eq_nil_of_not_pending
    (idle : tick.before.reception.timeSetting.pending = false) :
    tick.times = [] := by
  rw [times_eq_nil_iff, idle]
  exact nofun

theorem timeSetting_heard : tick.reception.timeSetting =
    if tick.before.reception.timeSetting.pending && tick.hearsSecond then .served
    else tick.before.reception.timeSetting :=
  tick.hears.timeSetting

private theorem timeSetting_acting :
    tick.acting.reception.timeSetting = tick.reception.timeSetting :=
  tick.timeSetting_observed

theorem timeSetting_after_of_request (requests : tick.RequestsTime) :
    tick.after.reception.timeSetting = .requested :=
  timeSetting_act_of_mem _ _ _ requests

theorem timeSetting_after (silent : ¬tick.RequestsTime) :
    tick.after.reception.timeSetting = tick.reception.timeSetting := by
  rw [after, timeSetting_act_of_not_mem _ _ _ silent, timeSetting_acting]

theorem not_requestsTime_of_set (set : tick.before.sync.systemTimeSet = true) :
    ¬tick.RequestsTime := by
  intro requests
  rw [(tick.rule.of_requestTimeSet requests).1] at set
  cases set

theorem not_requestsTime_of_phase (elsewhere : tick.after.sync.phase ≠ .setSystemTime) :
    ¬tick.RequestsTime :=
  fun requests => elsewhere (tick.rule.of_requestTimeSet requests).2.2

end Tick

/-! ## Before and after the request -/

namespace Run

variable {timings : Sync.Timings} {past : List (Tick devices)} {station : Station}

private theorem unasked (run : Run devices timings past station)
    (unset : station.sync.systemTimeSet = false) :
    station.reception.timeSetting = .initial ∧
      ∀ tick ∈ past, ¬tick.RequestsTime ∧ tick.times = [] := by
  induction run with
  | start => exact ⟨rfl, by simp⟩
  | poll tick run induction =>
      have silent : ¬tick.RequestsTime := fun requests => by
        have set := (tick.rule.of_requestTimeSet requests).2.1
        rw [set] at unset
        cases unset
      rcases induction ((tick.rule.systemTimeSet_eq silent).symm.trans unset) with
        ⟨setting, none⟩
      have idle := tick.times_eq_nil_of_not_pending (by rw [setting]; rfl)
      refine ⟨?_, List.forall_mem_cons.mpr ⟨⟨silent, idle⟩, none⟩⟩
      rw [tick.timeSetting_after silent, tick.timeSetting_heard, setting]
      rfl

theorem times_eq_nil_of_pending (run : Run devices timings past station)
    (pending : station.reception.timeSetting.pending = true) :
    station.sync.systemTimeSet = true ∧ ∀ tick ∈ past, tick.times = [] := by
  induction run with
  | start => cases pending
  | poll tick run induction =>
      by_cases requests : tick.RequestsTime
      · -- The request is new, so everything before it is the time before any request.
        rcases tick.rule.of_requestTimeSet requests with ⟨unset, set, -⟩
        rcases run.unasked unset with ⟨setting, none⟩
        have idle := tick.times_eq_nil_of_not_pending (by rw [setting]; rfl)
        exact ⟨set,
          List.forall_mem_cons.mpr ⟨idle, fun other member => (none other member).2⟩⟩
      · rw [tick.timeSetting_after requests, tick.timeSetting_heard] at pending
        split at pending
        · cases pending
        · rename_i unheard
          rcases induction pending with ⟨set, none⟩
          have idle : tick.times = [] := by
            rw [tick.times_eq_nil_iff]
            intro waits
            simpa [waits] using unheard
          exact ⟨(tick.rule.systemTimeSet_eq requests).trans set,
            List.forall_mem_cons.mpr ⟨idle, none⟩⟩

/-- After the request, and until a second is told, the request is pending. The phase lasts
as long as the power. -/
private theorem waiting {since older : List (Tick devices)} {requesting : Tick devices}
    (run : Run devices timings (since ++ requesting :: older) station)
    (requests : requesting.RequestsTime)
    (deaf : ∀ tick ∈ since, tick.hearsSecond = false) :
    station.reception.timeSetting = .requested ∧
      (station.sync.phase = .setSystemTime ↔
        ∀ tick ∈ since, tick.inputs.receiverPower = true) := by
  -- The induction is on the polls since the request: only the loss of power leaves the
  -- phase, and only a second serves the request.
  induction since generalizing station with
  | nil =>
      rcases run.of_cons with ⟨-, rfl⟩
      refine ⟨requesting.timeSetting_after_of_request requests, ?_⟩
      simp [(requesting.rule.of_requestTimeSet requests).2.2]
  | cons tick since induction =>
      rcases List.forall_mem_cons.mp deaf with ⟨unheard, deaf⟩
      rcases run.of_cons with ⟨earlier, rfl⟩
      rcases induction earlier deaf with ⟨setting, phase⟩
      have heard : tick.reception.timeSetting = .requested := by
        rw [tick.timeSetting_heard, unheard, setting, Bool.and_false]
        rfl
      have silent : ¬tick.RequestsTime :=
        tick.not_requestsTime_of_set
          (earlier.times_eq_nil_of_pending (by rw [setting]; rfl)).1
      have undone : tick.inputs.timeSetDone = false :=
        (congrArg TimeSetting.done tick.timeSetting_observed).trans (by rw [heard]; rfl)
      refine ⟨(tick.timeSetting_after silent).trans heard, ?_⟩
      rw [tick.rule.phase_eq_setSystemTime_iff silent undone, phase, List.forall_mem_cons,
        and_comm]

private theorem exists_request (run : Run devices timings past station)
    (set : station.sync.systemTimeSet = true) (none : ∀ tick ∈ past, tick.times = []) :
    ∃ since requesting older,
      past = since ++ requesting :: older ∧ requesting.RequestsTime ∧
      ∀ tick ∈ since, tick.hearsSecond = false := by
  induction run with
  | start => cases set
  | poll tick run induction =>
      by_cases requests : tick.RequestsTime
      · exact ⟨[], tick, _, rfl, requests, by simp⟩
      · rcases List.forall_mem_cons.mp none with ⟨idle, none⟩
        rcases induction ((tick.rule.systemTimeSet_eq requests).symm.trans set) none with
          ⟨since, requesting, older, rfl, requested, deaf⟩
        have setting := (run.waiting requested deaf).1
        have unheard : tick.hearsSecond = false :=
          tick.times_eq_nil_iff.mp idle (by rw [setting]; rfl)
        exact ⟨tick :: since, requesting, older, rfl, requested,
          List.forall_mem_cons.mpr ⟨unheard, deaf⟩⟩

end Run

/-! ## The order of requests -/

private theorem timesSet_requestsOf_eq_nil_iff {past : List (Tick devices)} :
    timesSet (requestsOf past) = [] ↔ ∀ tick ∈ past, tick.times = [] := by
  induction past with
  | nil => simp [requestsOf]
  | cons tick past induction =>
      rw [requestsOf_cons, timesSet_append, List.append_eq_nil_iff, induction,
        List.forall_mem_cons, and_comm]
      rfl

/-- No drift window is opened before the driver was asked to set the time. -/
def TimeFirst (requests : List Request) : Prop :=
  ∀ early late, requests = early ++ .pulse .startDrift :: late → timesSet early ≠ []

private theorem TimeFirst.append {first rest : List Request} (timeFirst : TimeFirst first)
    (set : .pulse .startDrift ∈ rest → timesSet first ≠ []) :
    TimeFirst (first ++ rest) := by
  intro early late split
  rcases List.append_eq_append_iff.mp split with
    ⟨more, whole, remains⟩ | ⟨more, whole, remains⟩
  · rw [whole, timesSet_append]
    exact fun none => set (by simp [remains]) (List.append_eq_nil_iff.mp none).1
  · cases more with
    | nil =>
        rw [List.append_nil] at whole
        have starts : .pulse .startDrift ∈ rest := by
          rw [← List.nil_append rest, ← remains]
          exact List.mem_cons_self
        exact whole ▸ set starts
    | cons request more =>
        cases remains
        exact timeFirst early more whole

private theorem not_timeFirst {first rest : List Request}
    (starts : .pulse .startDrift ∈ first)
    (none : timesSet first = []) : ¬TimeFirst (first ++ rest) := by
  intro timeFirst
  rcases List.append_of_mem starts with ⟨early, late, rfl⟩
  rw [timesSet_append, List.append_eq_nil_iff] at none
  exact timeFirst early (late ++ rest) (by simp) none.1

namespace Tick

variable (tick : Tick devices)

private theorem startDrift_notMem_hearing :
    .pulse .startDrift ∉ tick.hearing.map Call.request := by
  intro member
  rcases List.mem_map.mp member with ⟨call, heard, starts⟩
  have kind := tick.hears.requests call heard
  rw [starts] at kind
  exact kind

private theorem startDrift_mem_requests_iff :
    .pulse .startDrift ∈ tick.requests ↔ .startDrift ∈ tick.step.effects := by
  have asks (effect : Sync.Effect) :
      .pulse .startDrift ∈ tick.acting.requests effect ↔ .startDrift = effect := by
    cases effect <;> simp [Station.requests]
  rw [requests_eq, List.mem_append, or_iff_right tick.startDrift_notMem_hearing,
    actingRequests, List.mem_flatMap]
  simp [asks]

end Tick

/-! ## Setting the time before anything is measured -/

/-- The clock is stepped in the phase that waits for it, before any measurement. -/
structure SetsTimeFirst (past : List (Tick devices)) : Prop where
  inPhase : ∀ tick ∈ past, tick.times ≠ [] → tick.before.sync.phase = .setSystemTime
  timeFirst : TimeFirst (requestsOf past)
  settled : ∀ tick ∈ past, tick.after.reception.timeSetting.pending = true →
    tick.after.sync.phase.isMeasuring = false

/-- A request was overtaken: power was lost before any second was told, and the station
has gone on to another phase when a second is told at last or a drift window is opened
without one. -/
def Overtaken (past : List (Tick devices)) : Prop :=
  ∃ tick since requesting older, tick :: (since ++ requesting :: older) <:+ past ∧
    requesting.RequestsTime ∧ (∀ waiting ∈ since, waiting.hearsSecond = false) ∧
    (∃ dark ∈ since, dark.inputs.receiverPower = false) ∧
    (tick.hearsSecond = true ∨ .pulse .startDrift ∈ tick.requests)

private theorem Overtaken.of_suffix {earlier past : List (Tick devices)}
    (overtaken : Overtaken earlier) (suffix : earlier <:+ past) : Overtaken past := by
  rcases overtaken with ⟨tick, since, requesting, older, within, rest⟩
  exact ⟨tick, since, requesting, older, within.trans suffix, rest⟩

private theorem not_overtaken_of_powered {past : List (Tick devices)}
    (powered : ∀ tick ∈ past, tick.inputs.receiverPower = true) : ¬Overtaken past := by
  rintro ⟨tick, since, requesting, older, suffix, -, -, ⟨dark, member, unpowered⟩, -⟩
  have lit := powered dark (suffix.subset (by simp [member]))
  rw [unpowered] at lit
  cases lit

namespace Run

variable {timings : Sync.Timings} {past : List (Tick devices)} {station : Station}

private theorem overtaken_of_phase {tick : Tick devices}
    (run : Run devices timings past tick.before)
    (set : tick.before.sync.systemTimeSet = true)
    (none : ∀ earlier ∈ past, earlier.times = [])
    (phase : tick.before.sync.phase ≠ .setSystemTime)
    (acts : tick.hearsSecond = true ∨ .pulse .startDrift ∈ tick.requests) :
    Overtaken (tick :: past) := by
  rcases run.exists_request set none with ⟨since, requesting, older, rfl, requests, deaf⟩
  refine ⟨tick, since, requesting, older, List.suffix_refl _, requests, deaf, ?_, acts⟩
  by_contra lit
  refine phase ((run.waiting requests deaf).2.mpr fun waiting member => ?_)
  by_contra unpowered
  exact lit ⟨waiting, member, by simpa using unpowered⟩

private theorem systemTimeSet_of_startDrift {tick : Tick devices}
    (run : Run devices timings past tick.before)
    (starts : .startDrift ∈ tick.step.effects) :
    tick.before.sync.systemTimeSet = true ∧ tick.before.sync.phase ≠ .setSystemTime := by
  rcases tick.rule.of_startDrift starts with ⟨phase, set⟩ | phase | phase
  · exact ⟨set, by simp [phase]⟩
  · exact ⟨run.sync.systemTimeSet_of_phase (by rw [phase]; rfl), by simp [phase]⟩
  · exact ⟨run.sync.systemTimeSet_of_phase (by rw [phase]; rfl), by simp [phase]⟩

private theorem overtaken_of_measuring (run : Run devices timings past station)
    (pending : station.reception.timeSetting.pending = true)
    (measures : station.sync.phase.isMeasuring = true) : Overtaken past := by
  induction run with
  | start => cases pending
  | poll tick run induction =>
      have silent : ¬tick.RequestsTime := tick.not_requestsTime_of_phase fun waits => by
        rw [waits] at measures
        cases measures
      rw [tick.timeSetting_after silent, tick.timeSetting_heard] at pending
      split at pending
      · cases pending
      · -- Either the measurement has overtaken the request before, or this poll opens its
        -- window.
        rcases tick.rule.of_isMeasuring measures with before | starts
        · exact (induction pending before).of_suffix (List.suffix_cons _ _)
        · rcases run.systemTimeSet_of_startDrift starts with ⟨set, phase⟩
          exact run.overtaken_of_phase set (run.times_eq_nil_of_pending pending).2 phase
            (.inr (tick.startDrift_mem_requests_iff.mpr starts))

private theorem timeFirst_of_not_overtaken (run : Run devices timings past station)
    (undisturbed : ¬Overtaken past) : TimeFirst (requestsOf past) := by
  induction run with
  | start =>
      intro early late split
      simp [requestsOf] at split
  | poll tick run induction =>
      have before := induction fun overtaken =>
        undisturbed (overtaken.of_suffix (List.suffix_cons _ _))
      rw [requestsOf_cons, Tick.requests_eq, ← List.append_assoc]
      refine (before.append fun starts =>
        absurd starts tick.startDrift_notMem_hearing).append ?_
      intro acts none
      rw [timesSet_append, List.append_eq_nil_iff, timesSet_requestsOf_eq_nil_iff] at none
      have starts : .pulse .startDrift ∈ tick.requests := by
        rw [Tick.requests_eq]
        exact List.mem_append_right _ acts
      rcases run.systemTimeSet_of_startDrift
        (tick.startDrift_mem_requests_iff.mp starts) with
        ⟨set, phase⟩
      exact undisturbed (run.overtaken_of_phase set none.1 phase (.inr starts))

private theorem inPhase_of_not_overtaken (run : Run devices timings past station)
    (undisturbed : ¬Overtaken past) {tick : Tick devices} (member : tick ∈ past)
    (told : tick.times ≠ []) : tick.before.sync.phase = .setSystemTime := by
  rcases run.exists_suffix_of_mem member with ⟨earlier, suffix, before⟩
  rw [ne_eq, tick.times_eq_nil_iff, Classical.not_imp, Bool.not_eq_false] at told
  rcases before.times_eq_nil_of_pending told.1 with ⟨set, none⟩
  by_contra elsewhere
  exact undisturbed
    ((before.overtaken_of_phase set none elsewhere (.inl told.2)).of_suffix suffix)

private theorem settled_of_not_overtaken (run : Run devices timings past station)
    (undisturbed : ¬Overtaken past) {tick : Tick devices} (member : tick ∈ past)
    (pending : tick.after.reception.timeSetting.pending = true) :
    tick.after.sync.phase.isMeasuring = false := by
  rcases run.exists_suffix_of_mem member with ⟨earlier, suffix, before⟩
  rw [← Bool.not_eq_true]
  intro measures
  exact undisturbed
    (((Run.poll tick before).overtaken_of_measuring pending measures).of_suffix suffix)

private theorem not_overtaken_of_setsTimeFirst (run : Run devices timings past station)
    (orderly : SetsTimeFirst past) : ¬Overtaken past := by
  rintro ⟨tick, since, requesting, older, suffix, requests, deaf,
    ⟨dark, member, unpowered⟩, acts⟩
  rcases (run.of_suffix suffix).of_cons with ⟨earlier, -⟩
  rcases earlier.waiting requests deaf with ⟨setting, phase⟩
  have pending : tick.before.reception.timeSetting.pending = true := by rw [setting]; rfl
  by_cases told : tick.times = []
  · -- A window is opened before any time was set.
    have unheard := tick.times_eq_nil_iff.mp told pending
    have starts := acts.resolve_left (by simp [unheard])
    have none := (earlier.times_eq_nil_of_pending pending).2
    rcases suffix with ⟨later, rfl⟩
    have parts : requestsOf (later ++ tick :: (since ++ requesting :: older)) =
        requestsOf (tick :: (since ++ requesting :: older)) ++ requestsOf later := by
      simp [requestsOf]
    refine not_timeFirst ?_ ?_ (parts ▸ orderly.timeFirst)
    · rw [requestsOf_cons]
      exact List.mem_append_right _ starts
    · exact timesSet_requestsOf_eq_nil_iff.mpr (List.forall_mem_cons.mpr ⟨told, none⟩)
  · -- The time is set, but power was lost, so the phase is another one.
    have waits := orderly.inPhase tick (suffix.subset List.mem_cons_self) told
    have lit := phase.mp waits dark member
    rw [unpowered] at lit
    cases lit

/-- A run sets the time before anything is measured if and only if its request is not
overtaken. -/
theorem setsTimeFirst_iff (run : Run devices timings past station) :
    SetsTimeFirst past ↔ ¬Overtaken past := by
  constructor
  · exact run.not_overtaken_of_setsTimeFirst
  · intro undisturbed
    exact ⟨fun _ => run.inPhase_of_not_overtaken undisturbed,
      run.timeFirst_of_not_overtaken undisturbed,
      fun _ => run.settled_of_not_overtaken undisturbed⟩

end Run

theorem setsTimeFirst_of_steadyClock :
    ∃ (past : List (Tick Script.devices)) (station : Station),
      Run Script.devices .standard past station ∧
        replay? Script.devices .standard (atIntervals (List.replicate 24 (dated today))) =
          some (past.map Tick.played, station.bare) ∧
        (∃ tick ∈ past, tick.times = [⟨1274190445, 0⟩]) ∧ SetsTimeFirst past := by
  have replays : ((replay? Script.devices .standard
      (atIntervals (List.replicate 24 (dated today)))).map fun run =>
        (run.1.all fun played => played.transition.inputs.receiverPower,
          run.1.any fun played => timesSet (played.calls.map Call.request) =
            [⟨1274190445, 0⟩])) = some (true, true) := by
    decide +kernel
  rcases exists_run_of_reads replays with ⟨past, station, run, replays, reads⟩
  simp only [Prod.mk.injEq, List.all_eq_true, List.any_eq_true, List.mem_map,
    exists_exists_and_eq_and, decide_eq_true_eq, forall_exists_index, and_imp,
    forall_apply_eq_imp_iff₂] at reads
  exact ⟨past, station, run, replays, reads.2,
    run.setsTimeFirst_iff.mpr (not_overtaken_of_powered reads.1)⟩

/-- The receiver loses power right after the request, and tells no usable second until the
next drift window is open. -/
def lateSecond : List Script :=
  List.replicate 6 (dated today) ++ Script.initial :: List.replicate 6 (dated "000000") ++
    [dated today]

/-- The late second steps the clock inside a measurement. -/
theorem not_setsTimeFirst_of_lateSecond :
    ∃ (past : List (Tick Script.devices)) (station : Station),
      Run Script.devices .standard past station ∧
        replay? Script.devices .standard (atIntervals lateSecond) =
          some (past.map Tick.played, station.bare) ∧
        (∃ tick ∈ past, tick.before.sync.phase = .measureDrift ∧
          tick.times = [⟨1274190445, 0⟩]) ∧
        ¬SetsTimeFirst past := by
  have replays :
      ((replay? Script.devices .standard (atIntervals lateSecond)).map fun run =>
      run.1.any fun played => played.before.sync.phase = .measureDrift ∧
        timesSet (played.calls.map Call.request) = [⟨1274190445, 0⟩]) = some true := by
    decide +kernel
  rcases exists_run_of_reads replays with ⟨past, station, run, replays, reads⟩
  simp only [List.any_eq_true, List.mem_map, exists_exists_and_eq_and,
    decide_eq_true_eq] at reads
  refine ⟨past, station, run, replays, reads, fun orderly => ?_⟩
  rcases reads with ⟨tick, member, phase, told⟩
  have told : tick.times = [⟨1274190445, 0⟩] := told
  have waits := orderly.inPhase tick member (by simp [told])
  rw [show tick.before.sync.phase = .measureDrift from phase] at waits
  cases waits

end Station

end ClockDiscipline
