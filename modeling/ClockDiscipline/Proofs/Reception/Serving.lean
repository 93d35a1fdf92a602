import ClockDiscipline.Proofs.Station.Hearing

/-!
What a reception serves over its history. A request to set the time is served once, by the
first usable sentence after it. A measurement of the clock error is tried at every usable
sentence until the driver tells the time of the pulse, and its result waits to be taken.
Other sentences serve nothing.
-/

namespace ClockDiscipline

def Call.atPulse? : Call → Option Timestamp
  | ⟨.pulse .getTime, .ok atPulse⟩ => some atPulse
  | _ => none

private theorem Call.atPulse?_eq_some_iff {call : Call} {atPulse : Timestamp} :
    call.atPulse? = some atPulse ↔ call = ⟨.pulse .getTime, .ok atPulse⟩ := by
  constructor
  · intro told
    unfold atPulse? at told
    split at told
    · cases told
      rfl
    · cases told
  · rintro rfl
    rfl

namespace Reception

open Dialogue

variable {World : Type}

/-! ## Histories -/

inductive Use where
  | requestTime
  | startMeasuring
  | takeResult
  | handle (fields : Nmea.Fields) (now : Nat)

/-- Use a reception. Taking the result of a measurement is the one use that returns
something. -/
def use (devices : Devices World) (reception : Reception) :
    Use → Dialogue World (Option Float × Reception)
  | .requestTime => return (none, { reception with timeSetting := .requested })
  | .startMeasuring =>
      return (none, { reception with clockError := reception.clockError.start })
  | .takeResult =>
      return (reception.clockError.take.1,
        { reception with clockError := reception.clockError.take.2 })
  | .handle fields now => do
      let reception ← reception.handle devices fields now
      return (none, reception)

/-- One use of a reception, in the world that the devices have reached by then. -/
structure Turn (devices : Devices World) where
  use : Use
  world : World
  before : Reception

namespace Turn

variable {devices : Devices World} (turn : Turn devices)

def outcome : (Option Float × Reception) × Exchange World :=
  (turn.before.use devices turn.use).start turn.world

def taken : Option Float := turn.outcome.1.1

def after : Reception := turn.outcome.1.2

def calls : List Call := turn.outcome.2.calls

def requests : List Request := turn.calls.map Call.request

def times : List Timestamp := timesSet turn.requests

end Turn

section History

variable {devices : Devices World}

def reached (past : List (Turn devices)) : Reception :=
  past.head?.elim .initial Turn.after

variable (devices)

/-- The turns of a new reception, newest first. Between two turns the devices may change
in any way. -/
def turns : (uses : List (Use × World)) → List (Turn devices)
  | [] => []
  | (use, world) :: earlier => ⟨use, world, reached (turns earlier)⟩ :: turns earlier

private theorem exists_turns_of_suffix {earlier : List (Turn devices)}
    {uses : List (Use × World)}
    (suffix : earlier <:+ turns devices uses) :
    ∃ fewer, earlier = turns devices fewer := by
  induction uses with
  | nil => exact ⟨[], List.suffix_nil.mp suffix⟩
  | cons newest rest induction =>
      rcases List.suffix_cons_iff.mp suffix with whole | within
      · exact ⟨newest :: rest, whole⟩
      · exact induction within

private theorem before_eq_of_suffix {turn : Turn devices} {earlier : List (Turn devices)}
    {uses : List (Use × World)} (suffix : turn :: earlier <:+ turns devices uses) :
    turn.before = reached earlier := by
  rcases exists_turns_of_suffix devices suffix with ⟨fewer, whole⟩
  cases fewer with
  | nil => cases whole
  | cons newest rest =>
      cases whole
      rfl

end History

/-! ## What a turn tells -/

def Use.requestsTime : Use → Bool
  | .requestTime => true
  | _ => false

private theorem Use.requestsTime_eq_false {use : Use} (other : use ≠ .requestTime) :
    use.requestsTime = false := by
  cases use with
  | requestTime => exact absurd rfl other
  | _ => rfl

def Use.startsMeasuring : Use → Bool
  | .startMeasuring => true
  | _ => false

def Use.takesResult : Use → Bool
  | .takeResult => true
  | _ => false

/-- The second that a usable sentence tells: the receiver vouches for it, and its date and
time can be used. -/
def Use.utc? : Use → Option Int
  | .handle fields _ => if fields.isActive then fields.utc? else none
  | _ => none

/-- The error of the clock, where a usable sentence led to a call that told the time of
the last pulse. -/
def Use.measured? (use : Use) (calls : List Call) : Option Float := do
  let utc ← use.utc?
  let atPulse ← calls.findSome? Call.atPulse?
  return elapsedSeconds ⟨utc, 0⟩ atPulse

private theorem Use.measured?_eq_none (use : Use) (calls : List Call)
    (other : (use.startsMeasuring || use.takesResult) = true) :
    use.measured? calls = none := by
  cases use with
  | startMeasuring => rfl
  | takeResult => rfl
  | _ => cases other

def Turn.measured? {devices : Devices World} (turn : Turn devices) : Option Float :=
  turn.use.measured? turn.calls

/-! ## What waits -/

section Waiting

variable {devices : Devices World}

/-- Of the turns that request the time or tell it, the latest is a request. -/
def timeWaits (past : List (Turn devices)) : Bool :=
  (past.find? fun turn => turn.use.requestsTime || turn.use.utc?.isSome).any
    fun turn => turn.use.requestsTime

/-- Of the turns that start a measurement or complete it, the latest is a start. -/
def errorWaits (past : List (Turn devices)) : Bool :=
  (past.find? fun turn => turn.use.startsMeasuring || turn.measured?.isSome).any
    fun turn => turn.use.startsMeasuring

/-- The error from the latest of the turns that start a measurement, complete it or take
its result. -/
def resultOf (past : List (Turn devices)) : Option Float :=
  (past.find? fun turn => turn.use.startsMeasuring || turn.use.takesResult ||
    turn.measured?.isSome).bind Turn.measured?

variable (turn : Turn devices) (earlier : List (Turn devices))

private theorem timeWaits_cons : timeWaits (turn :: earlier) =
    (turn.use.requestsTime || !turn.use.utc?.isSome && timeWaits earlier) := by
  cases asks : turn.use.requestsTime <;> cases tells : turn.use.utc?.isSome <;>
    simp [timeWaits, asks, tells]

private theorem errorWaits_cons : errorWaits (turn :: earlier) =
    (turn.use.startsMeasuring || !turn.measured?.isSome && errorWaits earlier) := by
  cases starts : turn.use.startsMeasuring <;> cases measures : turn.measured?.isSome <;>
    simp [errorWaits, starts, measures]

private theorem resultOf_cons : resultOf (turn :: earlier) =
    if turn.use.startsMeasuring || turn.use.takesResult || turn.measured?.isSome then
      turn.measured?
    else resultOf earlier := by
  rw [resultOf, List.find?_cons]
  split <;> simp_all [resultOf]

end Waiting

/-! ## One turn -/

/-- Everything that a turn can do. -/
inductive Rule (before : Reception) :
    (use : Use) → (calls : List Call) → (taken : Option Float) →
      (after : Reception) → Prop
  | requestTime : Rule before .requestTime [] none
      { before with timeSetting := .requested }
  | startMeasuring :
      Rule before .startMeasuring [] none { before with clockError := ⟨true, none⟩ }
  | takeResult : Rule before .takeResult [] before.clockError.result
      { before with clockError := ⟨before.clockError.pending, none⟩ }
  | inactive (fields : Nmea.Fields) (now : Nat) (inactive : fields.isActive = false) :
      Rule before (.handle fields now) [] none before
  | unusable (fields : Nmea.Fields) (now : Nat) (active : fields.isActive = true)
      (unusable : fields.utc? = none) :
      Rule before (.handle fields now) [] none { before with fix := confirm fields now }
  | usable (fields : Nmea.Fields) (now : Nat) (active : fields.isActive = true)
      (utc : Int)
      (told : fields.utc? = some utc) (calls : List Call) (atPulse : Option Timestamp)
      (requests : calls.map Call.request = before.requests utc)
      (answered : ∀ shown, ⟨.pulse .getTime, .ok shown⟩ ∈ calls ↔
        before.clockError.pending = true ∧ atPulse = some shown) :
      Rule before (.handle fields now) calls none
        (before.hear (confirm fields now) utc atPulse)

private theorem Turn.of_makes {devices : Devices World} (turn : Turn devices)
    {fields : Nmea.Fields} {now : Nat} {reception : Reception} {requests : List Request}
    (handles : turn.use = .handle fields now)
    (makes : Makes devices (turn.before.handle devices fields now) turn.world reception
      requests) :
    turn.calls = devices.calls requests turn.world ∧ turn.taken = none ∧
      turn.after = reception := by
  rcases turn with ⟨use, world, before⟩
  cases handles
  rcases (makes.returning fun reception =>
    ((none : Option Float), reception)).regular_value with
    ⟨value, calls, -⟩
  exact ⟨calls, congrArg Prod.fst value, congrArg Prod.snd value⟩

private theorem Turn.rule {devices : Devices World} (turn : Turn devices) :
    Rule turn.before turn.use turn.calls turn.taken turn.after := by
  rcases turn with ⟨use, world, before⟩
  cases use with
  | requestTime => exact .requestTime
  | startMeasuring => exact .startMeasuring
  | takeResult => exact .takeResult
  | handle fields now =>
      cases active : fields.isActive with
      | false =>
          rcases Turn.of_makes ⟨_, world, before⟩ rfl
            (makes_handle_of_inactive devices now before world active) with
            ⟨calls, taken, after⟩
          rw [calls, taken, after]
          exact .inactive fields now active
      | true =>
          cases told : fields.utc? with
          | none =>
              rcases Turn.of_makes ⟨_, world, before⟩ rfl
                (makes_handle_of_unusable devices now before world active told) with
                ⟨calls, taken, after⟩
              rw [calls, taken, after]
              exact .unusable fields now active told
          | some utc =>
              rcases makes_handle_of_usable devices now before world active told with
                ⟨atPulse, makes, answered⟩
              rcases Turn.of_makes ⟨_, world, before⟩ rfl makes with ⟨calls, taken, after⟩
              rw [calls, taken, after]
              exact .usable fields now active utc told _ atPulse
                (devices.request_calls _ _)
                answered

private theorem atPulse?_of_answered {calls : List Call} {pending : Bool}
    {atPulse : Option Timestamp}
    (answered : ∀ shown, ⟨.pulse .getTime, .ok shown⟩ ∈ calls ↔
      pending = true ∧ atPulse = some shown) :
    calls.findSome? Call.atPulse? = if pending then atPulse else none := by
  cases told : calls.findSome? Call.atPulse? with
  | none =>
      have silent (shown : Timestamp) : ⟨.pulse .getTime, .ok shown⟩ ∉ calls := by
        intro member
        have known := List.findSome?_eq_none_iff.mp told _ member
        cases known
      cases pending with
      | false => rfl
      | true =>
          cases atPulse with
          | none => rfl
          | some shown => exact absurd ((answered shown).mpr ⟨rfl, rfl⟩) (silent shown)
  | some shown =>
      rcases List.exists_of_findSome?_eq_some told with ⟨call, member, tells⟩
      rw [Call.atPulse?_eq_some_iff] at tells
      rcases (answered shown).mp (tells ▸ member) with ⟨rfl, rfl⟩
      rfl

namespace Rule

variable {before after : Reception} {use : Use} {calls : List Call} {taken : Option Float}

private theorem timeSetting_eq (rule : Rule before use calls taken after) :
    after.timeSetting =
    if use.requestsTime then .requested
    else if use.utc?.isSome && before.timeSetting.pending then .served
    else before.timeSetting := by
  cases rule with
  | requestTime => rfl
  | startMeasuring => rfl
  | takeResult => rfl
  | inactive fields now inactive => simp [Use.requestsTime, Use.utc?, inactive]
  | unusable fields now active unusable => simp [Use.requestsTime, Use.utc?, unusable]
  | usable fields now active utc told =>
      simp [Use.requestsTime, Use.utc?, active, told, hear]

private theorem requests_eq (rule : Rule before use calls taken after) :
    calls.map Call.request = use.utc?.elim [] before.requests := by
  cases rule with
  | requestTime => rfl
  | startMeasuring => rfl
  | takeResult => rfl
  | inactive fields now inactive => simp [Use.utc?, inactive]
  | unusable fields now active unusable => simp [Use.utc?, unusable]
  | usable fields now active utc told calls atPulse requests =>
      simp [Use.utc?, active, told, requests]

private theorem measured?_of_answered {fields : Nmea.Fields} {now : Nat} {utc : Int}
    {pending : Bool} {atPulse : Option Timestamp} (active : fields.isActive = true)
    (told : fields.utc? = some utc)
    (answered : ∀ shown, ⟨.pulse .getTime, .ok shown⟩ ∈ calls ↔
      pending = true ∧ atPulse = some shown) :
    (Use.handle fields now).measured? calls =
      if pending then atPulse.map (elapsedSeconds ⟨utc, 0⟩) else none := by
  rw [Use.measured?, Use.utc?, if_pos active, told, atPulse?_of_answered answered]
  cases pending <;> cases atPulse <;> rfl

private theorem clockError_eq (rule : Rule before use calls taken after) :
    after.clockError =
    if use.startsMeasuring then ⟨true, none⟩
    else if use.takesResult then ⟨before.clockError.pending, none⟩
    else (use.measured? calls).elim before.clockError fun error =>
      ⟨false, some error⟩ := by
  cases rule with
  | requestTime => rfl
  | startMeasuring => rfl
  | takeResult => rfl
  | inactive fields now inactive =>
      simp [Use.startsMeasuring, Use.takesResult, Use.measured?, Use.utc?, inactive]
  | unusable fields now active unusable =>
      simp [Use.startsMeasuring, Use.takesResult, Use.measured?, Use.utc?, unusable]
  | usable fields now active utc told calls atPulse requests answered =>
      rw [measured?_of_answered active told answered]
      cases pending : before.clockError.pending with
      | false => exact before.clockError_hear_of_idle _ _ _ pending
      | true =>
          cases atPulse with
          | none => exact before.clockError_hear_none _ _
          | some shown => exact before.clockError_hear_some _ _ shown pending

private theorem completes (rule : Rule before use calls taken after) {utc : Int}
    {atPulse : Timestamp}
    (told : use.utc? = some utc) (member : ⟨.pulse .getTime, .ok atPulse⟩ ∈ calls) :
    before.clockError.pending = true ∧
      after.clockError = ⟨false, some (elapsedSeconds ⟨utc, 0⟩ atPulse)⟩ := by
  cases rule with
  | usable fields now active second usable calls shown requests answered =>
      rcases (answered atPulse).mp member with ⟨pending, rfl⟩
      rw [Use.utc?, if_pos active, usable] at told
      cases told
      exact ⟨pending, before.clockError_hear_some _ _ atPulse pending⟩
  | _ => cases member

private theorem taken_eq (rule : Rule before use calls taken after) :
    taken = if use.takesResult then before.clockError.result else none := by
  cases rule <;> rfl

private theorem of_inactive (rule : Rule before use calls taken after)
    {fields : Nmea.Fields}
    {now : Nat} (handles : use = .handle fields now)
    (inactive : fields.isActive = false) : calls = [] ∧ after = before := by
  cases rule <;> cases handles <;> simp_all

private theorem of_active (rule : Rule before use calls taken after)
    {fields : Nmea.Fields}
    {now : Nat} (handles : use = .handle fields now) (active : fields.isActive = true) :
    after.fix = confirm fields now ∧ (fields.utc? = none →
      calls = [] ∧ after.timeSetting = before.timeSetting ∧
        after.clockError = before.clockError) := by
  cases rule <;> cases handles <;> simp_all [hear]

end Rule

/-! ## All turns -/

section History

variable {devices : Devices World} {turn : Turn devices} {earlier : List (Turn devices)}

private theorem timeWaits_of_before
    (same : turn.before.timeSetting.pending = timeWaits earlier) :
    turn.after.timeSetting.pending = timeWaits (turn :: earlier) := by
  rw [turn.rule.timeSetting_eq, timeWaits_cons, ← same]
  cases turn.use.requestsTime with
  | true => rfl
  | false =>
      cases turn.use.utc? with
      | none => rfl
      | some utc =>
          cases pending : turn.before.timeSetting.pending <;>
            simp [TimeSetting.served, pending]

private theorem clockError_of_before
    (same : turn.before.clockError = ⟨errorWaits earlier, resultOf earlier⟩) :
    turn.after.clockError =
      ⟨errorWaits (turn :: earlier), resultOf (turn :: earlier)⟩ := by
  have other := turn.use.measured?_eq_none turn.calls
  rw [turn.rule.clockError_eq, errorWaits_cons, resultOf_cons, same, Turn.measured?]
  cases starts : turn.use.startsMeasuring with
  | true => simp [other, starts]
  | false =>
      cases takes : turn.use.takesResult with
      | true => simp [other, takes]
      | false => cases turn.use.measured? turn.calls <;> simp

private theorem reached_eq (uses : List (Use × World)) :
    (reached (turns devices uses)).timeSetting.pending = timeWaits (turns devices uses) ∧
      (reached (turns devices uses)).clockError =
        ⟨errorWaits (turns devices uses), resultOf (turns devices uses)⟩ := by
  induction uses with
  | nil => exact ⟨rfl, rfl⟩
  | cons newest earlier induction =>
      exact ⟨timeWaits_of_before induction.1, clockError_of_before induction.2⟩

private theorem waits_of_suffix {uses : List (Use × World)}
    (suffix : turn :: earlier <:+ turns devices uses) :
    turn.before.timeSetting.pending = timeWaits earlier ∧
      turn.before.clockError = ⟨errorWaits earlier, resultOf earlier⟩ := by
  rw [before_eq_of_suffix devices suffix]
  rcases exists_turns_of_suffix devices
    ((List.suffix_cons turn earlier).trans suffix) with
    ⟨fewer, rfl⟩
  exact reached_eq fewer

private theorem requests_of_suffix {uses : List (Use × World)}
    (suffix : turn :: earlier <:+ turns devices uses) :
    turn.requests = turn.use.utc?.elim [] fun utc =>
      (if timeWaits earlier then [.pulse (.setTime ⟨utc + 1, 0⟩)] else []) ++
        if errorWaits earlier then [.pulse .getTime] else [] := by
  rcases waits_of_suffix suffix with ⟨setting, measuring⟩
  rw [Turn.requests, turn.rule.requests_eq]
  unfold requests
  rw [setting, measuring]
  rfl

private theorem times_of_suffix {uses : List (Use × World)}
    (suffix : turn :: earlier <:+ turns devices uses) :
    turn.times =
      if timeWaits earlier then turn.use.utc?.toList.map fun utc => ⟨utc + 1, 0⟩
      else [] := by
  rw [Turn.times, requests_of_suffix suffix]
  cases turn.use.utc? with
  | none => cases timeWaits earlier <;> rfl
  | some utc => cases timeWaits earlier <;> cases errorWaits earlier <;> rfl

/-- From a request on, the time waits until a usable sentence comes. -/
theorem timeWaits_of_request {since older : List (Turn devices)}
    {requesting : Turn devices}
    (asks : requesting.use = .requestTime)
    (untold : ∀ turn ∈ since, turn.use.utc? = none) :
    timeWaits (since ++ requesting :: older) = true := by
  induction since with
  | nil =>
      rw [List.nil_append, timeWaits_cons, asks]
      rfl
  | cons turn since induction =>
      rcases List.forall_mem_cons.mp untold with ⟨silent, untold⟩
      rw [List.cons_append, timeWaits_cons, silent, induction untold]
      exact Bool.or_true _

private theorem timeWaits_of_serving {later older : List (Turn devices)}
    {serving : Turn devices} {utc : Int} (told : serving.use.utc? = some utc)
    (unasked : ∀ turn ∈ later, turn.use ≠ .requestTime) :
    timeWaits (later ++ serving :: older) = false := by
  induction later with
  | nil =>
      have other : serving.use ≠ .requestTime := by
        intro request
        rw [request] at told
        cases told
      rw [List.nil_append, timeWaits_cons, told, Use.requestsTime_eq_false other]
      rfl
  | cons turn later induction =>
      rcases List.forall_mem_cons.mp unasked with ⟨other, unasked⟩
      rw [List.cons_append, timeWaits_cons, Use.requestsTime_eq_false other,
        induction unasked, Bool.and_false, Bool.or_false]

section Times

variable {uses : List (Use × World)}

/-- The first usable sentence after a request is asked to set its time. -/
theorem times_of_serving {since older : List (Turn devices)}
    {serving requesting : Turn devices}
    {utc : Int}
    (suffix : serving :: (since ++ requesting :: older) <:+ turns devices uses)
    (asks : requesting.use = .requestTime) (untold : ∀ turn ∈ since, turn.use.utc? = none)
    (told : serving.use.utc? = some utc) : serving.times = [⟨utc + 1, 0⟩] := by
  rw [times_of_suffix suffix, timeWaits_of_request asks untold, told]
  rfl

private theorem times_eq_nil_of_served {between older : List (Turn devices)}
    {serving : Turn devices}
    {utc : Int} (suffix : turn :: (between ++ serving :: older) <:+ turns devices uses)
    (told : serving.use.utc? = some utc)
    (unasked : ∀ turn ∈ between, turn.use ≠ .requestTime) : turn.times = [] := by
  rw [times_of_suffix suffix, timeWaits_of_serving told unasked]
  rfl

private theorem times_eq_nil_of_untold (suffix : turn :: earlier <:+ turns devices uses)
    (untold : turn.use.utc? = none) : turn.times = [] := by
  rw [times_of_suffix suffix, untold]
  cases timeWaits earlier <;> rfl

end Times

/-- A reception that acts on what waits and on nothing else. The time that a sentence
tells is the time of the last pulse, so the time of the next one is a second later. -/
structure ServesInTurn (past : List (Turn devices)) : Prop where
  requests : ∀ turn earlier, turn :: earlier <:+ past →
    turn.requests = turn.use.utc?.elim [] fun utc =>
      (if timeWaits earlier then [.pulse (.setTime ⟨utc + 1, 0⟩)] else []) ++
        if errorWaits earlier then [.pulse .getTime] else []
  servedOnce : ∀ later serving since requesting older utc,
    past = later ++ serving :: (since ++ requesting :: older) →
    requesting.use = .requestTime → (∀ turn ∈ since, turn.use.utc? = none) →
    serving.use.utc? = some utc → (∀ turn ∈ later ++ since, turn.use ≠ .requestTime) →
    serving.times = [⟨utc + 1, 0⟩] ∧ ∀ turn ∈ later ++ since, turn.times = []
  completes : ∀ turn earlier, turn :: earlier <:+ past → ∀ utc atPulse,
    turn.use.utc? = some utc → ⟨.pulse .getTime, .ok atPulse⟩ ∈ turn.calls →
    errorWaits earlier = true ∧
      turn.after.clockError = ⟨false, some (elapsedSeconds ⟨utc, 0⟩ atPulse)⟩
  clockError : ∀ turn earlier, turn :: earlier <:+ past →
    turn.before.clockError = ⟨errorWaits earlier, resultOf earlier⟩
  taken : ∀ turn earlier, turn :: earlier <:+ past → turn.use = .takeResult →
    turn.taken = resultOf earlier
  inactive : ∀ turn ∈ past, ∀ fields now, turn.use = .handle fields now →
    fields.status ≠ "A" →
    turn.calls = [] ∧ turn.after = turn.before
  active : ∀ turn ∈ past, ∀ fields now, turn.use = .handle fields now →
    fields.status = "A" →
    turn.after.fix = ⟨true, now, fields.latitude, fields.longitude⟩ ∧
      (fields.utc? = none →
        turn.calls = [] ∧ turn.after.timeSetting = turn.before.timeSetting ∧
        turn.after.clockError = turn.before.clockError)

theorem servesInTurn (devices : Devices World) (uses : List (Use × World)) :
    ServesInTurn (turns devices uses) where
  requests _ _ suffix := requests_of_suffix suffix
  servedOnce later serving since requesting older utc whole asks untold told unasked := by
    constructor
    · exact times_of_serving ⟨later, whole.symm⟩ asks untold told
    · intro turn member
      rcases List.mem_append.mp member with after | between
      · rcases List.append_of_mem after with ⟨front, between, rfl⟩
        have suffix : turn :: (between ++ serving :: (since ++ requesting :: older)) <:+
            turns devices uses := ⟨front, by simp [whole]⟩
        apply times_eq_nil_of_served suffix told
        intro other among
        exact unasked other (by simp [among])
      · rcases List.append_of_mem between with ⟨front, back, rfl⟩
        have suffix : turn :: (back ++ requesting :: older) <:+ turns devices uses :=
          ⟨later ++ serving :: front, by simp [whole]⟩
        exact times_eq_nil_of_untold suffix (untold turn between)
  completes turn earlier suffix utc atPulse told member := by
    rcases waits_of_suffix suffix with ⟨-, measuring⟩
    rcases turn.rule.completes told member with ⟨pending, ends⟩
    rw [measuring] at pending
    exact ⟨pending, ends⟩
  clockError _ _ suffix := (waits_of_suffix suffix).2
  taken turn earlier suffix takes := by
    rw [turn.rule.taken_eq, takes, (waits_of_suffix suffix).2]
    rfl
  inactive turn _ fields now handles other :=
    turn.rule.of_inactive handles (decide_eq_false other)
  active turn _ fields now handles vouched :=
    turn.rule.of_active handles (decide_eq_true vouched)

end History

end Reception

end ClockDiscipline
