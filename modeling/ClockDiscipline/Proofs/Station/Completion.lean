import ClockDiscipline.Proofs.Station.Replay
import ClockDiscipline.Proofs.Sync.Feedback

/-!
Polls that complete a synchronisation. They alone ask the clock for a rate, and they alone
ask the driver for pseudo pulses. The station asks for either once in a poll.
-/

namespace ClockDiscipline

/-! ## What is asked for on completion -/

namespace Request

def isForCompletion : Request → Bool
  | adjust _ => true
  | persist => true
  | pulse .startPseudoPulse => true
  | pulse (.publish _) => true
  | _ => false

def isAdjustment : Request → Bool
  | adjust _ => true
  | _ => false

def isPseudoPulse : Request → Bool
  | pulse .startPseudoPulse => true
  | _ => false

private theorem isForCompletion_eq_false {request : Request}
    (heard : request.IsForReception) : request.isForCompletion = false := by
  cases request with
  | pulse request => cases request <;> first | rfl | cases heard
  | _ => cases heard

/-- Only completed synchronisations ask for requests of this kind. -/
def OnCompletion (kind : Request → Bool) : Prop :=
  ∀ request, kind request = true → request.isForCompletion = true

theorem onCompletion_isAdjustment : OnCompletion isAdjustment := by
  intro request adjusts
  cases request with
  | adjust adjustment => rfl
  | _ => cases adjusts

theorem onCompletion_isPseudoPulse : OnCompletion isPseudoPulse := by
  intro request starts
  cases request with
  | pulse request => cases request <;> first | rfl | cases starts
  | _ => cases starts

end Request

private theorem eq_of_length_le_one {α : Type} {items : List α} (few : items.length ≤ 1)
    {left right : α} (first : left ∈ items) (second : right ∈ items) : left = right := by
  rcases items with _ | ⟨item, _ | ⟨next, rest⟩⟩
  · cases first
  · rw [List.mem_singleton.mp first, List.mem_singleton.mp second]
  · simp at few

namespace Station

variable {World : Type} {devices : Devices World}

private theorem isForCompletion_of_mem_requests {station : Station} {effect : Sync.Effect}
    {request : Request} (elsewhere : effect.isForCompletion = false)
    (member : request ∈ station.requests effect) : request.isForCompletion = false := by
  cases effect with
  | sendInit index =>
      rcases List.mem_map.mp member with ⟨bytes, -, rfl⟩
      rfl
  | abortDrift => cases List.mem_singleton.mp member; rfl
  | startDrift => cases List.mem_singleton.mp member; rfl
  | finishDrift => simp [requests] at member; rcases member with rfl | rfl <;> rfl
  | flushQueues => cases member
  | clearFix => cases member
  | requestTimeSet => cases member
  | startError => cases member
  | _ => cases elsewhere

namespace Tick

variable (tick : Tick devices)

def Completes : Prop := tick.transition.Completes

instance : Decidable tick.Completes :=
  inferInstanceAs (Decidable tick.transition.Completes)

def asked (kind : Request → Bool) : List Request := tick.requests.filter kind

def Accepted (kind : Request → Bool) : Prop :=
  ∃ call ∈ tick.calls, kind call.request = true ∧ call.accepted = true

def Refused (kind : Request → Bool) : Prop :=
  ∃ call ∈ tick.calls, kind call.request = true ∧ call.accepted = false

instance (kind : Request → Bool) : Decidable (tick.Accepted kind) :=
  inferInstanceAs (Decidable (∃ call ∈ tick.calls, _ ∧ _))

/-! ## Requests and their answers -/

variable {tick} {kind : Request → Bool}

theorem asked_ne_nil_iff :
    tick.asked kind ≠ [] ↔ tick.Accepted kind ∨ tick.Refused kind := by
  constructor
  · intro asks
    rcases List.exists_mem_of_ne_nil _ asks with ⟨request, member⟩
    rcases List.mem_filter.mp member with ⟨made, fits⟩
    rcases List.mem_map.mp made with ⟨call, called, rfl⟩
    cases answered : call.accepted with
    | true => exact .inl ⟨call, called, fits, answered⟩
    | false => exact .inr ⟨call, called, fits, answered⟩
  · have made (call : Call) (called : call ∈ tick.calls)
        (fits : kind call.request = true) :
        tick.asked kind ≠ [] := by
      apply List.ne_nil_of_mem
      exact List.mem_filter.mpr ⟨List.mem_map_of_mem called, fits⟩
    rintro (⟨call, called, fits, -⟩ | ⟨call, called, fits, -⟩)
    · exact made call called fits
    · exact made call called fits

/-- A request that these polls make once is not both accepted and refused. -/
theorem not_accepted_of_once {polls : List (Tick devices)} {refusing other : Tick devices}
    (once : (polls.flatMap fun tick => tick.asked kind).length ≤ 1)
    (member : refusing ∈ polls)
    (also : other ∈ polls) (refused : refusing.Refused kind) : ¬other.Accepted kind := by
  rintro ⟨call, called, fits, accepted⟩
  rcases refused with ⟨refusal, recalled, suits, refused⟩
  let answered (tick : Tick devices) := tick.calls.filter fun call => kind call.request
  have asks : (fun tick : Tick devices => tick.asked kind) =
      fun tick => (answered tick).map Call.request := by
    funext tick
    rw [asked, requests, List.filter_map]
    rfl
  have few : (polls.flatMap answered).length ≤ 1 := by
    rwa [asks, ← List.map_flatMap, List.length_map] at once
  have same : call = refusal := eq_of_length_le_one few
    (List.mem_flatMap.mpr ⟨other, also, List.mem_filter.mpr ⟨called, fits⟩⟩)
    (List.mem_flatMap.mpr ⟨refusing, member, List.mem_filter.mpr ⟨recalled, suits⟩⟩)
  rw [same, refused] at accepted
  cases accepted

theorem not_accepted_of_all
    (refuses : tick.calls.all (fun call => !kind call.request || !call.accepted) = true) :
    ¬tick.Accepted kind := by
  rintro ⟨call, called, fits, accepted⟩
  have refused := List.all_eq_true.mp refuses call called
  rw [fits, accepted] at refused
  cases refused

theorem not_refused_of_all (accepts : tick.calls.all Call.accepted = true) :
    ¬tick.Refused kind := by
  rintro ⟨call, called, fits, refused⟩
  rw [List.all_eq_true.mp accepts call called] at refused
  cases refused

variable (tick)

/-! ## Polls that complete a synchronisation, and the others -/

theorem completion_cases :
    (∃ error, tick.Completes ∧
      tick.step.effects = tick.before.sync.synchronisationEffects tick.wallTime error ∧
      tick.after.sync.compensation = tick.before.sync.compensated error ∧
      tick.after.sync.pseudoPulseRunning = true) ∨
    ¬tick.Completes ∧ (∀ effect ∈ tick.step.effects, effect.isForCompletion = false) ∧
      tick.after.sync.pseudoPulseRunning = tick.before.sync.pseudoPulseRunning := by
  rcases tick.rule.completion_cases with ⟨error, effects, follows⟩ | ⟨elsewhere, running⟩
  · have applies :
        .applyCompensation (.ofRate (tick.before.sync.compensated error).total) ∈
        tick.step.effects := effects ▸ List.mem_cons_self
    exact .inl ⟨error, Sync.Transition.completes_iff.mpr ⟨_, applies⟩, effects, follows⟩
  · refine .inr ⟨fun completes => ?_, elsewhere, running⟩
    rcases Sync.Transition.completes_iff.mp completes with ⟨adjustment, applies⟩
    cases elsewhere _ applies

/-- What goes with a completed synchronisation is asked for by the effects alone. -/
private theorem asked_eq (goes : Request.OnCompletion kind) :
    tick.asked kind = tick.actingRequests.filter kind := by
  have unheard : (tick.hearing.map Call.request).filter kind = [] := by
    apply List.filter_eq_nil_iff.mpr
    intro request member asks
    rcases List.mem_map.mp member with ⟨call, heard, rfl⟩
    have elsewhere := Request.isForCompletion_eq_false (tick.hears.requests call heard)
    rw [goes _ asks] at elsewhere
    cases elsewhere
  rw [asked, requests_eq, List.filter_append, unheard, List.nil_append]

variable {tick}

theorem asked_of_incomplete (goes : Request.OnCompletion kind)
    (incomplete : ¬tick.Completes) : tick.asked kind = [] := by
  rw [tick.asked_eq goes]
  apply List.filter_eq_nil_iff.mpr
  intro request member asks
  rcases tick.completion_cases with ⟨-, completes, -⟩ | ⟨-, elsewhere, -⟩
  · exact incomplete completes
  · rcases List.mem_flatMap.mp member with ⟨effect, taken, made⟩
    have other := isForCompletion_of_mem_requests (elsewhere effect taken) made
    rw [goes _ asks] at other
    cases other

private theorem actingRequests_of_completes (completes : tick.Completes) :
    ∃ status,
      tick.actingRequests = [.adjust (.ofRate tick.after.sync.compensation.total)] ++
      (if tick.before.sync.pseudoPulseRunning then [] else [.pulse .startPseudoPulse]) ++
      [.persist, .pulse (.publish status)] := by
  rcases tick.completion_cases with ⟨error, -, effects, compensation, -⟩ | ⟨incomplete, -⟩
  · refine ⟨tick.acting.status tick.wallTime error, ?_⟩
    rw [actingRequests, effects, compensation, Sync.State.synchronisationEffects,
      List.flatMap_append, List.flatMap_append]
    cases tick.before.sync.pseudoPulseRunning <;> rfl
  · exact absurd completes incomplete

/-- A completed synchronisation asks for the rates that it leaves behind, and asks
once. -/
theorem asked_isAdjustment (completes : tick.Completes) :
    tick.asked Request.isAdjustment =
      [.adjust (.ofRate tick.after.sync.compensation.total)] := by
  rcases actingRequests_of_completes completes with ⟨status, requests⟩
  rw [tick.asked_eq Request.onCompletion_isAdjustment, requests]
  cases tick.before.sync.pseudoPulseRunning <;> rfl

theorem asked_isPseudoPulse (completes : tick.Completes) :
    tick.asked Request.isPseudoPulse =
      if tick.before.sync.pseudoPulseRunning then [] else [.pulse .startPseudoPulse] := by
  rcases actingRequests_of_completes completes with ⟨status, requests⟩
  rw [tick.asked_eq Request.onCompletion_isPseudoPulse, requests]
  cases tick.before.sync.pseudoPulseRunning <;> rfl

end Tick

/-! ## Runs with two synchronisations -/

theorem exists_run_of_fastClock :
    ∃ (past : List (Tick Script.devices)) (station : Station),
      Run Script.devices everyMinute past station ∧
        replay? Script.devices everyMinute (atIntervals (List.replicate 41 fastClock)) =
          some (past.map Tick.played, station.bare) ∧
        past.countP (fun tick => tick.Completes) = 2 ∧
        station.sync.compensation.memory ≠ (0, 0) ∧
        ∀ tick ∈ past, tick.calls.all Call.accepted = true := by
  have replays : ((replay? Script.devices everyMinute
      (atIntervals (List.replicate 41 fastClock))).map fun run =>
        (run.1.countP fun played => played.transition.Completes,
          decide (run.2.sync.compensation.memory ≠ (0, 0)),
          run.1.all fun played => played.calls.all Call.accepted)) = some (2, true,
          true) := by
    decide +kernel
  rcases exists_run_of_reads replays with ⟨past, station, run, replays, reads⟩
  simp only [Prod.mk.injEq, all_played_iff, decide_eq_true_eq, List.countP_map] at reads
  exact ⟨past, station, run, replays, reads⟩

/-- Worlds for two synchronisations, the first of which meets a refusal. -/
def refusedOnce (operation : Operation) : List Script :=
  List.replicate 22 fastClock ++ { fastClock with refused := [operation] } ::
    List.replicate 18 fastClock

end Station

end ClockDiscipline
