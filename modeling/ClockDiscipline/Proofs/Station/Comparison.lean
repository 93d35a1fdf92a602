import ClockDiscipline.Proofs.Dialogue.Comparison
import ClockDiscipline.Proofs.Station.Halting
import ClockDiscipline.Proofs.Station.Replay

/-!
Two runs side by side. Whether commands, the status or the hardware clock can be written
makes no difference to a station, and neither does it matter whether a read fails or gives
nothing: whatever else is the same for two runs, their stations and their requests are the
same throughout.
-/

namespace ClockDiscipline.Station

open Dialogue

variable {World Other : Type} {devices : Devices World} {others : Devices Other}

/-! ## Polls -/

namespace Poll

variable {α β : Type}

def Alike (left : Poll World α) (right : Poll Other α) : Prop :=
  Dialogue.Alike left.run right.run

private theorem Decides.alike {left : Poll World α} {right : Poll Other α}
    {outcome : Except Overflow α}
    (decides : left.Decides outcome) (decidesToo : right.Decides outcome) :
    Alike left right where
  regular := decides.regular
  regularToo := decidesToo.regular
  same world other :=
    .of_evaluatesTo (decides world) (decidesToo other) fun _ => ⟨rfl, rfl⟩

private theorem alike_continuation {leftNext : α → Poll World β}
    {rightNext : α → Poll Other β}
    (rest : ∀ value, Alike (leftNext value) (rightNext value))
    (outcome : Except Overflow α) :
    Dialogue.Alike (ExceptT.bindCont leftNext outcome)
      (ExceptT.bindCont rightNext outcome) := by
  cases outcome with
  | ok value => exact rest value
  | error overflow => exact alike_pure _

private theorem Alike.bind {left : Poll World α} {right : Poll Other α}
    {leftNext : α → Poll World β} {rightNext : α → Poll Other β}
    (first : Alike left right)
    (rest : ∀ value, Alike (leftNext value) (rightNext value)) :
    Alike (left >>= leftNext) (right >>= rightNext) :=
  Dialogue.Alike.bind first (alike_continuation rest)

private theorem alike_converse {left : Dialogue World α} {right : Dialogue Other α}
    (alike : Dialogue.Alike left right) : Alike (converse left) (converse right) := by
  rw [Alike, converse, converse, ExceptT.run_lift, ExceptT.run_lift, map_eq_pure_bind,
    map_eq_pure_bind]
  exact alike.bind fun _ => alike_pure _

end Poll

/-! ## The parts of a poll -/

section Parts

variable (devices : Devices World) (others : Devices Other) (now : Nat)
  (station : Station)

private theorem alikeFrom_readLink {world : World} {other : Other}
    (same : bytesOf (devices.read world).1 = bytesOf (others.read other).1) :
    AlikeFrom (station.readLink devices now).run world
      (station.readLink others now).run other := by
  refine .of_evaluatesTo (evaluatesTo_readLink devices now station world)
    (evaluatesTo_readLink others now station other) fun _ => ⟨?_, rfl⟩
  rw [receive_eq, receive_eq, same]

private theorem alike_assemble : Alike (station.assemble : Dialogue World Station)
    (station.assemble : Dialogue Other Station) where
  regular := regular_assemble station
  regularToo := regular_assemble station
  same world other := .of_evaluatesTo (evaluatesTo_assemble station world)
    (evaluatesTo_assemble station other) fun _ => ⟨rfl, rfl⟩

private theorem hear_congr {reception : Reception} (fix : Fix) (utc : Int)
    {atPulse further : Option Timestamp}
    (same : reception.clockError.pending = true → atPulse = further) :
    reception.hear fix utc atPulse = reception.hear fix utc further := by
  unfold Reception.hear
  cases pending : reception.clockError.pending with
  | false => rfl
  | true => rw [same pending]

private theorem isOutput_of_isForReception {request : Request}
    (heard : request.IsForReception) :
    request.isOutput = false := by
  cases request with
  | pulse request => cases request <;> first | rfl | cases heard
  | _ => cases heard

private theorem alike_hearSentence (reception : Reception) (sentence : Nmea.Sentence) :
    Alike (hearSentence devices now reception sentence)
      (hearSentence others now reception sentence) where
  regular := Reception.regular_hearSentence devices now reception sentence
  regularToo := Reception.regular_hearSentence others now reception sentence
  same := by
    intro world other
    cases told : sentence.utc? with
    | none =>
        have silent := Reception.makes_hearSentence_of_none devices now told reception world
        have silentToo :=
          Reception.makes_hearSentence_of_none others now told reception other
        exact silent.alikeFrom silentToo fun _ => rfl
    | some utc =>
        rcases Reception.makes_hearSentence_of_some devices now told reception world with
          ⟨atPulse, makes, shows⟩
        rcases Reception.makes_hearSentence_of_some others now told reception other with
          ⟨further, makesToo, showsToo⟩
        refine makes.alikeFrom makesToo fun agree => hear_congr _ utc fun pending => ?_
        -- No sentence puts anything out, so the driver has told both the same.
        have same := agree.eq_of_asked (by simp) fun call member => by
          apply isOutput_of_isForReception
          apply Reception.isForReception_of_mem_requests
          rw [← devices.request_calls (reception.requests utc) world]
          exact List.mem_map_of_mem member
        apply Option.ext
        intro shown
        have left := shows shown
        have right := showsToo shown
        rw [same, right] at left
        simpa [pending, eq_comm] using left.symm

private theorem alike_hearSentences :
    Alike (station.hearSentences devices now) (station.hearSentences others now) := by
  rw [hearSentences_eq, hearSentences_eq]
  exact (Alike.foldlM (alike_hearSentence devices others now) station.reception).bind
    fun _ =>
    alike_pure _

private theorem window?_eq {world : World} {other : Other}
    (agree : AnswersAgree (devices.calls [.pulse .stopDrift, .pulse .getDrift] world)
      (others.calls [.pulse .stopDrift, .pulse .getDrift] other)) :
    devices.window? world = others.window? other := by
  have same := agree.eq_of_asked (by simp) (by simp [Devices.calls, Request.isOutput])
  simp only [Devices.calls, List.cons.injEq, Call.mk.injEq, heq_eq_eq, true_and,
    and_true] at same
  exact congrArg Except.toOption same.2

private theorem alike_carryOut (effect : Sync.Effect) :
    Alike (carryOut devices station effect) (carryOut others station effect) where
  regular world := ⟨_, _, _, makes_carryOut devices station effect world⟩
  regularToo other := ⟨_, _, _, makes_carryOut others station effect other⟩
  same := by
    intro world other
    refine (makes_carryOut devices station effect world).alikeFrom
      (makes_carryOut others station effect other) fun agree => ?_
    cases effect with
    | finishDrift => rw [window?_eq devices others agree]
    | _ => rfl

private theorem alike_conclude (wallTime : Int) :
    Poll.Alike (station.conclude devices now wallTime)
      (station.conclude others now wallTime) := by
  refine ((decides_watch now station).alike (decides_watch now station)).bind
    fun observed => ?_
  refine ((decides_advance now observed wallTime).alike
    (decides_advance now observed wallTime)).bind fun advanced => ?_
  apply Poll.alike_converse
  exact Alike.foldlM (alike_carryOut devices others) advanced.2

private theorem alikeFrom_hearLink {world : World} {other : Other}
    (same : bytesOf (devices.read world).1 = bytesOf (others.read other).1) :
    AlikeFrom (station.hearLink devices now).run world
      (station.hearLink others now).run other := by
  rw [hearLink, hearLink, Poll.run_bind_eq, Poll.run_bind_eq]
  refine (alikeFrom_readLink devices others now station same).bind
    (regular_readLink devices now station) (regular_readLink others now station) ?_
  refine Poll.alike_continuation fun listening => ?_
  refine (Poll.alike_converse (alike_assemble listening)).bind fun assembled => ?_
  exact Poll.alike_converse (alike_hearSentences devices others now assembled)

private theorem alikeFrom_poll (wallTime : Int) {world : World} {other : Other}
    (same : bytesOf (devices.read world).1 = bytesOf (others.read other).1) :
    AlikeFrom (station.poll devices now wallTime).run world
      (station.poll others now wallTime).run other := by
  rw [poll_eq, poll_eq, Poll.run_bind_eq, Poll.run_bind_eq]
  refine (alikeFrom_hearLink devices others now station same).bind
    (regular_hearLink devices now station) (regular_hearLink others now station) ?_
  exact Poll.alike_continuation fun heard =>
    alike_conclude devices others now heard wallTime

end Parts

/-! ## Runs -/

namespace Tick

def told (tick : Tick devices) : Nat × Int × List UInt8 :=
  (tick.now, tick.wallTime, tick.received)

def course (tick : Tick devices) : Station × List Request := (tick.after, tick.requests)

private theorem reaches_poll (tick : Tick devices) :
    (tick.before.poll devices tick.now tick.wallTime).Reaches tick.world tick.after
      tick.calls
      tick.next :=
  reaches_poll_iff.mpr ⟨tick, rfl, rfl, rfl, rfl, rfl, rfl, rfl⟩

private theorem course_eq {tick : Tick devices} {other : Tick others}
    (told : tick.told = other.told)
    (before : tick.before = other.before) (agree : AnswersAgree tick.calls other.calls) :
    tick.course = other.course := by
  simp only [Tick.told, Prod.mk.injEq] at told
  rcases told with ⟨now, wallTime, received⟩
  have reaches := other.reaches_poll
  rw [← now, ← wallTime, ← before] at reaches
  rcases alikeFrom_poll devices others tick.now tick.before tick.wallTime received
    tick.reaches_poll reaches agree with ⟨after, requests⟩
  exact Prod.ext (Except.ok.inj after) requests

end Tick

/-- Two runs are told the same, and all but their outputs are answered the same. -/
structure MeetTheSame (past : List (Tick devices)) (further : List (Tick others)) :
    Prop where
  told : past.map Tick.told = further.map Tick.told
  answered : ∀ pair ∈ past.zip further, AnswersAgree pair.1.calls pair.2.calls

/-- Two runs are in the same state throughout and make the same requests. -/
structure GoAlike (past : List (Tick devices)) (station : Station)
    (further : List (Tick others))
    (second : Station) : Prop where
  stations : station = second
  courses : past.map Tick.course = further.map Tick.course
  requests : requestsOf past = requestsOf further
  /-- Be it a poll that meets an overflow. -/
  next : ∀ now wallTime world other,
    bytesOf (devices.read world).1 = bytesOf (others.read other).1 →
    AlikeFrom (station.poll devices now wallTime).run world
      (second.poll others now wallTime).run other

private theorem Run.course_eq {timings : Sync.Timings} {past : List (Tick devices)}
    {further : List (Tick others)} {station second : Station}
    (run : Run devices timings past station) (runToo : Run others timings further second)
    (meet : MeetTheSame past further) :
    station = second ∧ past.map Tick.course = further.map Tick.course := by
  induction run generalizing further second with
  | start =>
      have none : further = [] := List.map_eq_nil_iff.mp meet.told.symm
      subst none
      cases runToo
      exact ⟨rfl, rfl⟩
  | poll tick run induction =>
      rcases List.map_eq_cons_iff.mp meet.told.symm with
        ⟨other, rest, rfl, told, toldBefore⟩
      rcases runToo.of_cons with ⟨reached, rfl⟩
      rcases List.forall_mem_cons.mp meet.answered with ⟨answered, answeredBefore⟩
      rcases induction reached ⟨toldBefore.symm, answeredBefore⟩ with ⟨before, courses⟩
      have course := Tick.course_eq told.symm before answered
      exact ⟨congrArg Prod.fst course,
        by rw [List.map_cons, course, courses, List.map_cons]⟩

private theorem requestsOf_eq_courses (past : List (Tick devices)) :
    requestsOf past = (past.map Tick.course).reverse.flatMap Prod.snd := by
  rw [← List.map_reverse, List.flatMap_map]
  rfl

private theorem alike_start (timings : Sync.Timings) :
    Alike (start devices timings) (start others timings) where
  regular world := ⟨_, _, _, makes_start_station devices timings world⟩
  regularToo other := ⟨_, _, _, makes_start_station others timings other⟩
  same world other := (makes_start_station devices timings world).alikeFrom
    (makes_start_station others timings other) fun _ => rfl

/-- Runs that meet the same go alike, whatever outputs and reads fail. -/
theorem Run.goAlike {timings : Sync.Timings} {past : List (Tick devices)}
    {further : List (Tick others)} {station second : Station}
    (run : Run devices timings past station) (runToo : Run others timings further second)
    (meet : MeetTheSame past further) :
    Alike (Station.start devices timings) (Station.start others timings) ∧
      GoAlike past station further second := by
  rcases run.course_eq runToo meet with ⟨rfl, courses⟩
  refine ⟨alike_start timings, ?_⟩
  constructor
  case stations => rfl
  case courses => exact courses
  case requests => rw [requestsOf_eq_courses, courses, ← requestsOf_eq_courses]
  case next =>
    intro now wallTime world other same
    exact alikeFrom_poll devices others now station wallTime same

/-! ## Runs that fail in different ways -/

deriving instance DecidableEq for Call

instance (call other : Call) : Decidable (call.AgreesWith other) :=
  inferInstanceAs (Decidable (_ → _ → _))

instance (calls others : List Call) : Decidable (AnswersAgree calls others) :=
  inferInstanceAs (Decidable (∀ pair ∈ calls.zip others, pair.1.AgreesWith pair.2))

def toldIn (devices : Devices World) (poll : Nat × Int × World) :
    Nat × Int × List UInt8 :=
  (poll.1, poll.2.1, bytesOf (devices.read poll.2.2).1)

private theorem meetTheSame_of_played {past : List (Tick devices)}
    {further : List (Tick others)} (told : (past.map Tick.poll).map (toldIn devices) =
      (further.map Tick.poll).map (toldIn others))
    (answered : ∀ pair ∈ (past.map Tick.played).zip (further.map Tick.played),
      AnswersAgree pair.1.calls pair.2.calls) : MeetTheSame past further := by
  constructor
  case told =>
    rw [List.map_map, List.map_map] at told
    exact told
  case answered =>
    rw [List.zip_map, List.forall_mem_map] at answered
    exact answered

def silentOnce : List Script :=
  { fastClock with incoming := [] } :: List.replicate 23 fastClock

/-- The same, but the link fails once, and then nothing can be put out. -/
def failingOutputs : List Script :=
  { fastClock with refused := [.read] } ::
    List.replicate 23 { fastClock with refused := [.write, .publish, .persist] }

def Played.putsOut (played : Played) (accepted : Bool) : Bool :=
  played.calls.all fun call => !call.request.isOutput || call.accepted == accepted

theorem goAlike_of_failingOutputs :
    ∃ (past further : List (Tick Script.devices)) (station second : Station),
      Run Script.devices .standard past station ∧
        Run Script.devices .standard further second ∧
        past.map Tick.poll = atIntervals silentOnce ∧
        further.map Tick.poll = atIntervals failingOutputs ∧
        (∀ tick ∈ past, tick.played.putsOut true = true) ∧
        (∀ tick ∈ further, tick.played.putsOut false = true) ∧
        (further.flatMap Tick.calls).countP (fun call => call.request.isOutput) = 6 ∧
        Alike (start Script.devices .standard) (start Script.devices .standard) ∧
        GoAlike past station further second := by
  have reads :
      ((replay? Script.devices .standard (atIntervals silentOnce)).bind fun run =>
      (replay? Script.devices .standard (atIntervals failingOutputs)).map
        fun other : List Played × Station =>
        (decide (∀ pair ∈ run.1.zip other.1, AnswersAgree pair.1.calls pair.2.calls),
          run.1.all (Played.putsOut · true), other.1.all (Played.putsOut · false),
          (other.1.flatMap Played.calls).countP fun call => call.request.isOutput)) =
      some (true, true, true, 6) := by
    decide +kernel
  have told : (atIntervals silentOnce).map (toldIn Script.devices) =
      (atIntervals failingOutputs).map (toldIn Script.devices) := by
    decide +kernel
  rcases Option.bind_eq_some_iff.mp reads with ⟨⟨replayed, final⟩, replays, reads⟩
  rcases Option.map_eq_some_iff.mp reads with
    ⟨⟨replayedToo, finalToo⟩, replaysToo, readOff⟩
  rcases exists_run_of_replay? replays with ⟨past, station, run, polls, rfl, rfl⟩
  rcases exists_run_of_replay? replaysToo with
    ⟨further, second, runToo, pollsToo, rfl, rfl⟩
  simp only [Prod.mk.injEq, decide_eq_true_eq, all_played_iff,
    List.flatMap_map] at readOff
  rcases readOff with ⟨answered, accepts, refuses, outputs⟩
  have meet : MeetTheSame past further :=
    meetTheSame_of_played (by rw [polls, pollsToo, told]) answered
  rcases run.goAlike runToo meet with ⟨starts, alike⟩
  exact ⟨past, further, station, second, run, runToo, polls, pollsToo, accepts, refuses,
    outputs, starts, alike⟩

end ClockDiscipline.Station
