import ClockDiscipline.Proofs.Dialogue
import ClockDiscipline.Station.Basic

/-!
What the station takes from the sentences of a poll. The first sentence that tells a
usable second serves a pending request to set the time. A pending measurement of the clock
error ends with the first usable second for which the driver tells the time of the pulse.
-/

namespace ClockDiscipline

/-! ## What is told and what is asked -/

/-- The second that a sentence tells. A sentence that the receiver does not vouch for
tells none. -/
def Nmea.Sentence.utc? (sentence : Nmea.Sentence) : Option Int :=
  let fields := Nmea.Fields.ofBytes sentence.bytes
  if fields.tag = fixTag ∧ fields.isActive then fields.utc? else none

def Nmea.Sentence.fixAfter (sentence : Nmea.Sentence) (now : Nat) (fix : Fix) : Fix :=
  let fields := Nmea.Fields.ofBytes sentence.bytes
  if fields.tag = fixTag ∧ fields.isActive then Reception.confirm fields now else fix

def Fix.hear (fix : Fix) (now : Nat) (sentences : List Nmea.Sentence) : Fix :=
  sentences.foldl (fun fix sentence => sentence.fixAfter now fix) fix

def Request.time? : Request → Option Timestamp
  | .pulse (.setTime time) => some time
  | _ => none

def timesSet (requests : List Request) : List Timestamp :=
  requests.filterMap Request.time?

@[simp] theorem timesSet_nil : timesSet [] = [] := rfl

@[simp] theorem timesSet_append (first rest : List Request) :
    timesSet (first ++ rest) = timesSet first ++ timesSet rest :=
  List.filterMap_append

def Request.IsForReception : Request → Prop
  | .pulse (.setTime _) => True
  | .pulse .getTime => True
  | _ => False

namespace Reception

variable {World : Type} (devices : Devices World) (now : Nat)

def requests (reception : Reception) (utc : Int) : List Request :=
  (if reception.timeSetting.pending then [.pulse (.setTime (.ofSeconds (utc + 1)))]
    else []) ++
    if reception.clockError.pending then [.pulse .getTime] else []

/-- The reception that has heard a sentence which tells `utc` and leads to `fix`, where
`atPulse` is what the driver tells of the last pulse. -/
def hear (reception : Reception) (fix : Fix) (utc : Int) (atPulse : Option Timestamp) :
    Reception where
  fix := fix
  timeSetting := if reception.timeSetting.pending then .served else reception.timeSetting
  clockError :=
    if reception.clockError.pending then
      match atPulse with
      | some atPulse => reception.clockError.complete atPulse utc
      | none => reception.clockError
    else reception.clockError

theorem isForReception_of_mem_requests {reception : Reception} {utc : Int}
    {request : Request}
    (member : request ∈ reception.requests utc) : request.IsForReception := by
  rcases List.mem_append.mp member with setting | measuring
  · split at setting <;> simp_all [Request.IsForReception]
  · split at measuring <;> simp_all [Request.IsForReception]

section Hear

variable (reception : Reception) (fix : Fix) (utc : Int)

theorem clockError_hear_of_idle (atPulse : Option Timestamp)
    (idle : reception.clockError.pending = false) :
    (reception.hear fix utc atPulse).clockError = reception.clockError := by
  simp [hear, idle]

theorem clockError_hear_none :
    (reception.hear fix utc none).clockError = reception.clockError := by
  simp [hear]

theorem clockError_hear_some (atPulse : Timestamp)
    (pending : reception.clockError.pending = true) :
    (reception.hear fix utc (some atPulse)).clockError =
      ⟨false, some (ErrorMeasurement.errorAt atPulse utc)⟩ := by
  simp [hear, pending, ErrorMeasurement.complete]

end Hear

private theorem makes_serveTimeSetting (utc : Int) (setting : TimeSetting)
    (world : World) :
    Dialogue.Makes devices (serveTimeSetting devices utc setting) world
      (if setting.pending then .served else setting)
      (if setting.pending then [.pulse (.setTime (.ofSeconds (utc + 1)))] else []) := by
  unfold serveTimeSetting
  cases setting.pending with
  | false => exact .pure _ world
  | true =>
      exact (Dialogue.Makes.askPulse devices _ world).bind (.after_say _ (.pure _ _))

private theorem makes_serveClockError (utc : Int) (measurement : ErrorMeasurement)
    (world : World) :
    Dialogue.Makes devices (serveClockError devices utc measurement) world
      (if measurement.pending then
        match (devices.perform (.pulse .getTime) world).answer.toOption with
        | some atPulse => measurement.complete atPulse utc
        | none => measurement
      else measurement)
      (if measurement.pending then [.pulse .getTime] else []) := by
  unfold serveClockError
  cases measurement.pending with
  | false => exact .pure _ world
  | true =>
      have asked := Dialogue.Makes.askPulse devices .getTime world
      cases told : (devices.perform (.pulse .getTime) world).answer.toOption with
      | none =>
          rw [told] at asked
          exact asked.bind (.pure _ _)
      | some atPulse =>
          rw [told] at asked
          exact asked.bind (.after_say _ (.pure _ _))

/-! ## One sentence -/

section Handle

variable {fields : Nmea.Fields} (reception : Reception) (world : World)

theorem makes_handle_of_inactive (inactive : fields.isActive = false) :
    Dialogue.Makes devices (reception.handle devices fields now) world reception [] := by
  unfold handle
  rw [inactive]
  exact .after_say _ (.pure _ world)

theorem makes_handle_of_unusable (active : fields.isActive = true)
    (unusable : fields.utc? = none) :
    Dialogue.Makes devices (reception.handle devices fields now) world
      { reception with fix := confirm fields now } [] := by
  unfold handle
  simp only [active, unusable, if_true, pure_bind]
  exact .after_say _ (.pure _ world)

theorem makes_handle_of_usable (active : fields.isActive = true) {utc : Int}
    (told : fields.utc? = some utc) :
    ∃ atPulse, Dialogue.Makes devices (reception.handle devices fields now) world
        (reception.hear (confirm fields now) utc atPulse) (reception.requests utc) ∧
      ∀ shown,
        ⟨.pulse .getTime, .ok shown⟩ ∈ devices.calls (reception.requests utc) world ↔
        reception.clockError.pending = true ∧ atPulse = some shown := by
  let setting := devices.after
    (if reception.timeSetting.pending then [.pulse (.setTime (.ofSeconds (utc + 1)))]
      else [])
    world
  refine ⟨(devices.perform (.pulse .getTime) setting).answer.toOption, ?_, ?_⟩
  · unfold handle
    simp only [active, told, if_true]
    refine .after_say _ ((makes_serveTimeSetting devices utc _ world).bind ?_)
    rw [← List.append_nil (if reception.clockError.pending then _ else _)]
    exact (makes_serveClockError devices utc _ _).bind (.pure _ _)
  · intro shown
    have unasked : ⟨.pulse .getTime, .ok shown⟩ ∉ devices.calls
        (if reception.timeSetting.pending then [.pulse (.setTime (.ofSeconds (utc + 1)))]
          else []) world := by
      split <;> simp [Devices.calls]
    rw [requests, devices.calls_append, List.mem_append, or_iff_right unasked]
    cases pending : reception.clockError.pending with
    | false => simp [Devices.calls]
    | true =>
        show _ ↔ true = true ∧
          (devices.perform (.pulse .getTime) setting).answer.toOption = some shown
        rw [if_pos rfl, Devices.calls, Devices.calls, List.mem_singleton]
        cases answered : (devices.perform (.pulse .getTime) setting).answer with
        | error failure => simp [Except.toOption]
        | ok reply => simp [Except.toOption, @eq_comm _ reply]

end Handle

variable {sentence : Nmea.Sentence}

theorem makes_hearSentence_of_none (untold : sentence.utc? = none) (reception : Reception)
    (world : World) :
    Dialogue.Makes devices (Station.hearSentence devices now reception sentence) world
      { reception with fix := sentence.fixAfter now reception.fix } [] := by
  unfold Nmea.Sentence.utc? at untold
  unfold Station.hearSentence Nmea.Sentence.fixAfter
  by_cases tagged : (Nmea.Fields.ofBytes sentence.bytes).tag = Nmea.fixTag
  · simp only [tagged, true_and, if_true] at untold ⊢
    cases active : (Nmea.Fields.ofBytes sentence.bytes).isActive with
    | false => exact makes_handle_of_inactive devices now reception world active
    | true =>
        rw [active, if_pos rfl] at untold
        exact makes_handle_of_unusable devices now reception world active untold
  · simp only [tagged, false_and, if_false]
    exact .after_say _ (.pure _ world)

theorem makes_hearSentence_of_some {utc : Int} (told : sentence.utc? = some utc)
    (reception : Reception) (world : World) :
    ∃ atPulse,
      Dialogue.Makes devices (Station.hearSentence devices now reception sentence) world
        (reception.hear (sentence.fixAfter now reception.fix) utc atPulse)
        (reception.requests utc) ∧
      ∀ shown,
        ⟨.pulse .getTime, .ok shown⟩ ∈ devices.calls (reception.requests utc) world ↔
        reception.clockError.pending = true ∧ atPulse = some shown := by
  unfold Nmea.Sentence.utc? at told
  dsimp only at told
  split at told
  case isFalse => cases told
  case isTrue usable =>
    rw [Nmea.Sentence.fixAfter, if_pos usable]
    unfold Station.hearSentence
    simp only [usable.1, if_true]
    exact makes_handle_of_usable devices now reception world usable.2 told

theorem regular_hearSentence (reception : Reception) (sentence : Nmea.Sentence) :
    (Station.hearSentence devices now reception sentence).Regular := by
  refine Dialogue.Makes.regular devices fun world => ?_
  cases told : sentence.utc? with
  | none => exact ⟨_, _, makes_hearSentence_of_none devices now told reception world⟩
  | some utc =>
      rcases makes_hearSentence_of_some devices now told reception world with
        ⟨_, makes, _⟩
      exact ⟨_, _, makes⟩

/-! ## All sentences of a poll -/

/-- What hearing `sentences` by way of `calls` makes of `before`. -/
structure Heard (before : Reception) (sentences : List Nmea.Sentence) (calls : List Call)
    (after : Reception) : Prop where
  requests : ∀ call ∈ calls, call.request.IsForReception
  timeSetting : after.timeSetting =
    if before.timeSetting.pending && sentences.any (·.utc?.isSome) then .served
    else before.timeSetting
  timesSet : timesSet (calls.map Call.request) =
    if before.timeSetting.pending then
      (sentences.findSome? Nmea.Sentence.utc?).toList.map fun utc => .ofSeconds (utc + 1)
    else []
  clockError : after.clockError = before.clockError ∨
    before.clockError.pending = true ∧ ∃ sentence ∈ sentences, ∃ utc atPulse,
      sentence.utc? = some utc ∧ ⟨.pulse .getTime, .ok atPulse⟩ ∈ calls ∧
      after.clockError = ⟨false, some (ErrorMeasurement.errorAt atPulse utc)⟩
  unanswered : after.clockError.pending = true →
    ∀ atPulse, ⟨.pulse .getTime, .ok atPulse⟩ ∉ calls

namespace Heard

private theorem nil (reception : Reception) : Heard reception [] [] reception where
  requests := by simp
  timeSetting := by simp
  timesSet := by simp
  clockError := .inl rfl
  unanswered := by simp

private theorem cons_of_none {before after : Reception} {fix : Fix}
    {sentences : List Nmea.Sentence} {calls : List Call} (untold : sentence.utc? = none)
    (rest : Heard { before with fix } sentences calls after) :
    Heard before (sentence :: sentences) calls after where
  requests := rest.requests
  timeSetting := by
    rw [rest.timeSetting]
    simp [untold]
  timesSet := by
    rw [rest.timesSet]
    simp [untold]
  clockError := by
    rcases rest.clockError with same | ⟨pending, other, member, completes⟩
    · exact .inl same
    · exact .inr ⟨pending, other, List.mem_cons_of_mem _ member, completes⟩
  unanswered := rest.unanswered

/-- A sentence that tells a second comes before others. Nothing is left for them but a
measurement to which the driver did not reply. -/
private theorem cons_of_some {before after : Reception} {fix : Fix}
    {sentences : List Nmea.Sentence}
    {utc : Int} {atPulse : Option Timestamp} {first calls : List Call}
    (told : sentence.utc? = some utc)
    (asked : first.map Call.request = before.requests utc)
    (answered : ∀ shown, ⟨.pulse .getTime, .ok shown⟩ ∈ first ↔
      before.clockError.pending = true ∧ atPulse = some shown)
    (rest : Heard (before.hear fix utc atPulse) sentences calls after) :
    Heard before (sentence :: sentences) (first ++ calls) after where
  requests := by
    intro call member
    rcases List.mem_append.mp member with early | late
    · have listed : call.request ∈ before.requests utc := by
        rw [← asked]
        exact List.mem_map_of_mem early
      exact isForReception_of_mem_requests listed
    · exact rest.requests call late
  timeSetting := by
    rw [rest.timeSetting]
    cases pending : before.timeSetting.pending <;>
      simp [hear, pending, told, TimeSetting.served]
  timesSet := by
    rw [List.map_append, timesSet_append, rest.timesSet, asked, Reception.requests,
      timesSet_append]
    cases pending : before.timeSetting.pending <;>
      cases measuring : before.clockError.pending <;>
        simp [hear, pending, told, ClockDiscipline.timesSet, Request.time?,
          TimeSetting.served]
  clockError := by
    cases measuring : before.clockError.pending with
    | false =>
        have kept := before.clockError_hear_of_idle fix utc atPulse measuring
        rcases rest.clockError with same | ⟨pending, _⟩
        · exact .inl (same.trans kept)
        · rw [kept, measuring] at pending
          cases pending
    | true =>
        cases atPulse with
        | none =>
            -- Without a reply the measurement is left for the sentences that follow.
            have kept := before.clockError_hear_none fix utc
            rcases rest.clockError with
              same | ⟨_, other, member, second, pulse, told, replied, ends⟩
            · exact .inl (same.trans kept)
            · exact .inr ⟨rfl, other, List.mem_cons_of_mem _ member, second, pulse, told,
                List.mem_append_right _ replied, ends⟩
        | some pulse =>
            have ended := before.clockError_hear_some fix utc pulse measuring
            rcases rest.clockError with same | ⟨pending, _⟩
            · exact .inr ⟨rfl, sentence, List.mem_cons_self, utc, pulse, told,
                List.mem_append_left _ ((answered pulse).mpr ⟨measuring, rfl⟩),
                same.trans ended⟩
            · rw [ended] at pending
              cases pending
  unanswered pending pulse member := by
    rcases List.mem_append.mp member with early | late
    · rcases (answered pulse).mp early with ⟨measuring, rfl⟩
      have ended := before.clockError_hear_some fix utc pulse measuring
      rcases rest.clockError with same | ⟨reopened, _⟩
      · rw [same, ended] at pending
        cases pending
      · rw [ended] at reopened
        cases reopened
    · exact rest.unanswered pending pulse late

end Heard

theorem heard_of_evaluatesTo {sentences : List Nmea.Sentence} :
    ∀ {before : Reception} {world : World} {after : Reception} {calls : List Call}
      {next : World},
      (sentences.foldlM (Station.hearSentence devices now) before).EvaluatesTo world
        after calls
        next → Heard before sentences calls after := by
  induction sentences with
  | nil =>
      intro before world after calls next heard
      rcases heard.unique (Dialogue.evaluatesTo_pure before world) with ⟨rfl, rfl, rfl⟩
      exact .nil _
  | cons sentence sentences induction =>
      intro before world after calls next heard
      rw [List.foldlM_cons] at heard
      rcases heard.of_bind (regular_hearSentence devices now before sentence)
        (fun _ => Dialogue.Regular.foldlM (regular_hearSentence devices now) _) with
        ⟨reception, first, middle, rest, begins, continues, rfl⟩
      cases told : sentence.utc? with
      | none =>
          rcases begins.unique
            (makes_hearSentence_of_none devices now told before world) with
            ⟨rfl, rfl, rfl⟩
          exact .cons_of_none told (induction continues)
      | some utc =>
          rcases makes_hearSentence_of_some devices now told before world with
            ⟨atPulse, makes, answered⟩
          rcases begins.unique makes with ⟨rfl, rfl, rfl⟩
          exact .cons_of_some told (devices.request_calls _ _) answered
            (induction continues)

private theorem fix_of_makes {before after : Reception} {world next : World}
    {calls : List Call}
    (heard : (Station.hearSentence devices now before sentence).EvaluatesTo world
      after calls
      next) : after.fix = sentence.fixAfter now before.fix := by
  cases told : sentence.utc? with
  | none =>
      rcases heard.unique (makes_hearSentence_of_none devices now told before world) with
        ⟨rfl, -⟩
      rfl
  | some utc =>
      rcases makes_hearSentence_of_some devices now told before world with ⟨_, makes, -⟩
      rcases heard.unique makes with ⟨rfl, -⟩
      rfl

theorem fix_of_evaluatesTo {sentences : List Nmea.Sentence} :
    ∀ {before : Reception} {world : World} {after : Reception} {calls : List Call}
      {next : World},
      (sentences.foldlM (Station.hearSentence devices now) before).EvaluatesTo world
        after calls
        next → after.fix = before.fix.hear now sentences := by
  induction sentences with
  | nil =>
      intro before world after calls next heard
      rcases heard.unique (Dialogue.evaluatesTo_pure before world) with ⟨rfl, -⟩
      rfl
  | cons sentence sentences induction =>
      intro before world after calls next heard
      rw [List.foldlM_cons] at heard
      rcases heard.of_bind (regular_hearSentence devices now before sentence)
        (fun _ => Dialogue.Regular.foldlM (regular_hearSentence devices now) _) with
        ⟨reception, first, middle, rest, begins, continues, rfl⟩
      rw [induction continues, fix_of_makes devices now begins]
      rfl

theorem hear_of_evaluatesTo {utc : Int} (told : sentence.utc? = some utc)
    {before after : Reception} {world next : World} {calls : List Call}
    (heard : ([sentence].foldlM (Station.hearSentence devices now) before).EvaluatesTo
      world after
      calls next) :
    ∃ atPulse, after = before.hear (sentence.fixAfter now before.fix) utc atPulse ∧
      calls.map Call.request = before.requests utc ∧
      ∀ shown, ⟨.pulse .getTime, .ok shown⟩ ∈ calls ↔
        before.clockError.pending = true ∧ atPulse = some shown := by
  rcases makes_hearSentence_of_some devices now told before world with
    ⟨atPulse, makes, answered⟩
  rw [List.foldlM_cons] at heard
  have alone := Dialogue.EvaluatesTo.bind makes (Dialogue.evaluatesTo_pure _ _)
  rcases heard.unique alone with ⟨rfl, rfl, rfl⟩
  rw [List.append_nil]
  exact ⟨atPulse, rfl, devices.request_calls _ _, answered⟩

end Reception

end ClockDiscipline
