import ClockDiscipline.Proofs.Station.Halting
import ClockDiscipline.Proofs.Station.Replay

/-!
The order of drift requests. The driver is asked to read a window right after it was asked
to open it and to close it, and to open another one right after the one before was closed
or read. Neither the loss of power nor a refusal changes that.
-/

namespace ClockDiscipline

/-! ## Drift requests and their order -/

def Request.aboutDrift? : Request → Option Pulse.Request
  | .pulse .startDrift => some .startDrift
  | .pulse .stopDrift => some .stopDrift
  | .pulse .getDrift => some .getDrift
  | _ => none

def driftRequests (requests : List Request) : List Pulse.Request :=
  requests.filterMap Request.aboutDrift?

@[simp] theorem driftRequests_append (first rest : List Request) :
    driftRequests (first ++ rest) = driftRequests first ++ driftRequests rest :=
  List.filterMap_append

private theorem driftRequests_eq_nil {requests : List Request}
    (heard : ∀ request ∈ requests, request.IsForReception) :
    driftRequests requests = [] := by
  rw [driftRequests, List.filterMap_eq_nil_iff]
  intro request member
  have kind := heard request member
  cases request with
  | pulse request =>
      cases request with
      | setTime time => rfl
      | getTime => rfl
      | _ => cases kind
  | _ => cases kind

namespace Pulse

/-- Whether the driver may get the request when the drift requests before it were
`earlier`. -/
def Request.MayFollow (earlier : List Request) : Request → Prop
  | .getDrift => [.startDrift, .stopDrift] <:+ earlier
  | .startDrift => [.stopDrift] <:+ earlier ∨ [.stopDrift, .getDrift] <:+ earlier
  | _ => True

def InWindowOrder (requests : List Request) : Prop :=
  ∀ early request late, requests = early ++ request :: late → request.MayFollow early

/-- Between two requests to open a window there is one to close it. -/
def WindowsApart (requests : List Request) : Prop :=
  ∀ early middle late,
    requests = early ++ .startDrift :: (middle ++ .startDrift :: late) →
    .stopDrift ∈ middle

private theorem inWindowOrder_nil : InWindowOrder [] := by
  intro early request late split
  simp at split

private theorem concat_eq_append_cons {before early middle : List Request}
    {last request : Request} (split : before ++ [last] = early ++ request :: middle) :
    (middle = [] ∧ before = early ∧ last = request) ∨
      ∃ between, middle = between ++ [last] ∧ before = early ++ request :: between := by
  rcases List.eq_nil_or_concat middle with rfl | ⟨between, other, rfl⟩
  · rcases List.append_inj' split rfl with ⟨same, lasts⟩
    exact .inl ⟨rfl, same, List.singleton_inj.mp lasts⟩
  · have parts : before ++ [last] = (early ++ request :: between) ++ [other] := by
      simpa using split
    rcases List.append_inj' parts rfl with ⟨same, lasts⟩
    rw [List.concat_eq_append, lasts]
    exact .inr ⟨between, rfl, same⟩

private theorem InWindowOrder.snoc {requests : List Request} {request : Request}
    (ordered : InWindowOrder requests) (follows : request.MayFollow requests) :
    InWindowOrder (requests ++ [request]) := by
  intro early other late split
  rcases concat_eq_append_cons split with ⟨-, rfl, rfl⟩ | ⟨between, -, same⟩
  · exact follows
  · exact ordered early other between same

private theorem stopDrift_mem_of_suffix {early middle : List Request}
    (suffix : [.stopDrift] <:+ early ++ .startDrift :: middle) : .stopDrift ∈ middle := by
  rcases suffix with ⟨before, whole⟩
  rcases concat_eq_append_cons whole with ⟨-, -, same⟩ | ⟨between, rfl, -⟩
  · cases same
  · simp

private theorem InWindowOrder.windowsApart {requests : List Request}
    (ordered : InWindowOrder requests) :
    WindowsApart requests := by
  intro early middle late split
  have follows :=
    ordered (early ++ .startDrift :: middle) .startDrift late (by simp [split])
  rcases follows with closed | ⟨before, read⟩
  · exact stopDrift_mem_of_suffix closed
  · -- The window was read after it had been closed.
    have last : (before ++ [.stopDrift]) ++ [.getDrift] =
        early ++ .startDrift :: middle := by
      simpa using read
    rcases concat_eq_append_cons last with ⟨-, -, same⟩ | ⟨between, rfl, rest⟩
    · cases same
    · exact List.mem_append_left _ (stopDrift_mem_of_suffix ⟨before, rest⟩)

end Pulse

/-! ## What effects ask for -/

def Sync.Effect.driftRequests : Sync.Effect → List Pulse.Request
  | .abortDrift => [.stopDrift]
  | .startDrift => [.startDrift]
  | .finishDrift => [.stopDrift, .getDrift]
  | _ => []

private theorem driftRequests_requests (station : Station) (effect : Sync.Effect) :
    driftRequests (station.requests effect) = effect.driftRequests := by
  cases effect with
  | sendInit index =>
      show driftRequests (Nmea.initialisation[index]?.toList.map Request.write) = []
      cases Nmea.initialisation[index]? <;> rfl
  | _ => rfl

namespace Sync

/-- The drift requests so far are in order and show what has become of the present
window. -/
structure FollowsWindows (requests : List Pulse.Request) (state : State) : Prop where
  ordered : Pulse.InWindowOrder requests
  opened : state.phase = .measureDrift → state.awaitingDriftResult = false →
    [.startDrift] <:+ requests
  closed : state.phase = .measureDrift → state.awaitingDriftResult = true →
    [.stopDrift, .getDrift] <:+ requests

namespace FollowsWindows

variable {requests : List Pulse.Request} {before after : State}

private theorem elsewhere (follows : FollowsWindows requests before)
    (outside : after.phase ≠ .measureDrift) : FollowsWindows requests after :=
  ⟨follows.ordered, fun inside => absurd inside outside,
    fun inside => absurd inside outside⟩

private theorem of_start (ordered : Pulse.InWindowOrder requests)
    (may : Pulse.Request.startDrift.MayFollow requests)
    (opened : after.awaitingDriftResult = false) :
    FollowsWindows (requests ++ [.startDrift]) after where
  ordered := ordered.snoc may
  opened _ _ := List.suffix_append _ _
  closed _ awaiting := by
    rw [opened] at awaiting
    cases awaiting

end FollowsWindows

private theorem State.driftRequests_synchronisationEffects (state : State)
    (wallTime : Int) (error : Float) :
    (state.synchronisationEffects wallTime error).flatMap Effect.driftRequests = [] := by
  cases running : state.pseudoPulseRunning <;>
    simp [synchronisationEffects, running, Effect.driftRequests]

private theorem Rule.followsWindows {before after : State} {inputs : Inputs}
    {effects : List Effect}
    {requests : List Pulse.Request} (rule : Rule before inputs effects after)
    (follows : FollowsWindows requests before) :
    FollowsWindows (requests ++ effects.flatMap Effect.driftRequests) after := by
  cases rule with
  | wait =>
      rw [List.flatMap_nil, List.append_nil]
      exact follows
  | openFirstWindow =>
      have stopped : Pulse.InWindowOrder (requests ++ [.stopDrift]) :=
        follows.ordered.snoc trivial
      show FollowsWindows (requests ++ [.stopDrift, .startDrift]) _
      rw [List.append_cons]
      exact .of_start stopped (.inl (List.suffix_append _ _)) rfl
  | closeWindow powered phase opened =>
      rcases follows.opened phase opened with ⟨earlier, rfl⟩
      refine ⟨?_, fun _ awaiting => (nomatch awaiting), fun _ _ => List.suffix_append _ _⟩
      have stopped : Pulse.InWindowOrder (earlier ++ [.startDrift] ++ [.stopDrift]) :=
        follows.ordered.snoc trivial
      have read :=
        stopped.snoc (show Pulse.Request.getDrift.MayFollow _ from ⟨earlier, by simp⟩)
      simpa [Effect.driftRequests] using read
  | rejectWindow powered phase awaiting =>
      exact .of_start follows.ordered (.inr (follows.closed phase awaiting)) rfl
  | disagree powered phase awaiting =>
      exact .of_start follows.ordered (.inr (follows.closed phase awaiting)) rfl
  | synchronise =>
      rw [before.driftRequests_synchronisationEffects, List.append_nil]
      exact follows.elsewhere nofun
  | measureAgain powered phase =>
      refine FollowsWindows.elsewhere (by simpa [Effect.driftRequests] using follows) ?_
      simp [phase]
  | _ =>
      exact FollowsWindows.elsewhere (by simpa [Effect.driftRequests] using follows) nofun

end Sync

namespace Station

variable {World : Type} {devices : Devices World}

private theorem Tick.driftRequests_requests (tick : Tick devices) :
    driftRequests tick.requests =
      tick.step.effects.flatMap Sync.Effect.driftRequests := by
  have deaf : driftRequests (tick.hearing.map Call.request) = [] := by
    refine driftRequests_eq_nil fun request member => ?_
    rcases List.mem_map.mp member with ⟨call, heard, rfl⟩
    exact tick.hears.requests call heard
  rw [tick.requests_eq, driftRequests_append, deaf, List.nil_append, Tick.actingRequests,
    driftRequests, List.filterMap_flatMap]
  exact congrArg (tick.step.effects.flatMap ·)
    (funext (ClockDiscipline.driftRequests_requests tick.acting))

def pollRequests (devices : Devices World) (now : Nat) (wallTime : Int) (world : World)
    (station : Station) : List Request :=
  ((station.poll devices now wallTime).run.start world).2.calls.map Call.request

private theorem driftRequests_pollRequests (devices : Devices World) (now : Nat)
    (wallTime : Int) (world : World) (station : Station) :
    (∃ tick : Tick devices, tick.before = station ∧
        driftRequests (station.pollRequests devices now wallTime world) =
          driftRequests tick.requests) ∨
      driftRequests (station.pollRequests devices now wallTime world) = [] := by
  have evaluates := (regular_poll devices now station wallTime).evaluatesTo_start world
  unfold pollRequests
  generalize (station.poll devices now wallTime).run.start world = reached at evaluates ⊢
  rcases reached with ⟨_ | after, exchange⟩
  · -- An overflow comes before any effect is carried out, and only effects ask about
    -- windows.
    right
    refine driftRequests_eq_nil fun request member => ?_
    rcases List.mem_map.mp member with ⟨call, called, rfl⟩
    exact isForReception_of_halted devices now station evaluates call called
  · left
    rcases Tick.reaches_poll_iff.mp evaluates with ⟨tick, -, -, before, -, -, calls, -⟩
    exact ⟨tick, before, by rw [Tick.requests, calls]⟩

namespace Run

variable {timings : Sync.Timings} {past : List (Tick devices)} {station : Station}

private theorem followsWindows (run : Run devices timings past station) :
    Sync.FollowsWindows (driftRequests (requestsOf past)) station.sync := by
  induction run with
  | start => exact ⟨Pulse.inWindowOrder_nil, nofun, nofun⟩
  | poll tick run induction =>
      rw [requestsOf_cons, driftRequests_append, tick.driftRequests_requests]
      exact tick.rule.followsWindows induction

/-- In every run, and in a poll after it that may end with an overflow, the driver gets
the drift requests in order. -/
theorem inWindowOrder (run : Run devices timings past station) (now : Nat)
    (wallTime : Int) (world : World) :
    let requests := driftRequests
      (requestsOf past ++ station.pollRequests devices now wallTime world)
    Pulse.InWindowOrder requests ∧ Pulse.WindowsApart requests := by
  intro requests
  have ordered : Pulse.InWindowOrder requests := by
    show Pulse.InWindowOrder (driftRequests (_ ++ _))
    rw [driftRequests_append]
    rcases station.driftRequests_pollRequests devices now wallTime world with
      ⟨tick, rfl, same⟩ | none
    · rw [same, ← driftRequests_append, ← requestsOf_cons]
      exact (Run.poll tick run).followsWindows.ordered
    · rw [none, List.append_nil]
      exact run.followsWindows.ordered
  exact ⟨ordered, ordered.windowsApart⟩

end Run

private theorem requestsOf_eq (past : List (Tick devices)) :
    requestsOf past =
      (past.map Tick.played).reverse.flatMap fun played =>
        played.calls.map Call.request := by
  rw [← List.map_reverse, List.flatMap_map]
  rfl

/-- Power is lost while a window is open, and again before the outcome of another is
consumed. -/
def interruptedWindows : List Script :=
  List.replicate 8 (dated today) ++ Script.initial :: List.replicate 9 (dated today) ++
    Script.initial :: List.replicate 6 (dated today)

theorem inWindowOrder_of_interruptedWindows :
    ∃ (past : List (Tick Script.devices)) (station : Station),
      Run Script.devices .standard past station ∧
        driftRequests (requestsOf past) =
          [.stopDrift, .startDrift, .stopDrift, .startDrift, .stopDrift, .getDrift,
            .startDrift, .stopDrift, .getDrift, .stopDrift, .startDrift] ∧
        ∀ now wallTime world,
          let requests := driftRequests
            (requestsOf past ++ station.pollRequests Script.devices now wallTime world)
          Pulse.InWindowOrder requests ∧ Pulse.WindowsApart requests := by
  have replays : ((replay? Script.devices .standard (atIntervals interruptedWindows)).map
      fun run => driftRequests (run.1.reverse.flatMap fun played =>
        played.calls.map Call.request)) =
      some [.stopDrift, .startDrift, .stopDrift, .startDrift, .stopDrift, .getDrift,
        .startDrift, .stopDrift, .getDrift, .stopDrift, .startDrift] := by
    decide +kernel
  rcases exists_run_of_reads replays with ⟨past, station, run, -, reads⟩
  dsimp only at reads
  rw [← requestsOf_eq] at reads
  exact ⟨past, station, run, reads, run.inWindowOrder⟩

end Station

end ClockDiscipline
