import ClockDiscipline.Station.Devices

/-!
What a dialogue amounts to. Work that only talks with the devices comes to a value, makes
calls and leaves a world, whatever was said before. The journal grows on the way and
decides nothing.
-/

namespace ClockDiscipline

namespace Dialogue

variable {World α β : Type}

/-- From `world` the dialogue comes to `value` by way of `calls` and leaves the devices in
`next`. -/
def EvaluatesTo (dialogue : Dialogue World α) (world : World) (value : α)
    (calls : List Call)
    (next : World) : Prop :=
  ∀ earlier journal, ∃ written,
    dialogue ⟨world, earlier, journal⟩ = (value, ⟨next, earlier ++ calls, written⟩)

/-- What was called and said before makes no difference to a regular dialogue. -/
def Regular (dialogue : Dialogue World α) : Prop :=
  ∀ world, ∃ value calls next, dialogue.EvaluatesTo world value calls next

namespace EvaluatesTo

variable {dialogue : Dialogue World α} {world next : World} {value : α}
  {calls : List Call}

theorem regular_value (evaluates : dialogue.EvaluatesTo world value calls next) :
    (dialogue.start world).1 = value ∧ (dialogue.start world).2.calls = calls ∧
      (dialogue.start world).2.world = next := by
  rcases evaluates [] #[] with ⟨written, equal⟩
  have started : dialogue.start world = (value, ⟨next, [] ++ calls, written⟩) := equal
  simp [started]

theorem unique {otherValue : α} {otherCalls : List Call} {otherNext : World}
    (left : dialogue.EvaluatesTo world value calls next)
    (right : dialogue.EvaluatesTo world otherValue otherCalls otherNext) :
    value = otherValue ∧ calls = otherCalls ∧ next = otherNext := by
  rcases left.regular_value with ⟨leftValue, leftCalls, leftNext⟩
  rcases right.regular_value with ⟨rightValue, rightCalls, rightNext⟩
  exact ⟨leftValue.symm.trans rightValue, leftCalls.symm.trans rightCalls,
    leftNext.symm.trans rightNext⟩

theorem iff {otherValue : α} {otherCalls : List Call} {otherNext : World}
    (evaluates : dialogue.EvaluatesTo world value calls next) :
    dialogue.EvaluatesTo world otherValue otherCalls otherNext ↔
      otherValue = value ∧ otherCalls = calls ∧ otherNext = next := by
  constructor
  · exact fun other => other.unique evaluates
  · rintro ⟨rfl, rfl, rfl⟩
    exact evaluates

end EvaluatesTo

theorem Regular.evaluatesTo_start {dialogue : Dialogue World α}
    (regular : dialogue.Regular) (world : World) :
    dialogue.EvaluatesTo world (dialogue.start world).1 (dialogue.start world).2.calls
      (dialogue.start world).2.world := by
  rcases regular world with ⟨value, calls, next, evaluates⟩
  rcases evaluates.regular_value with ⟨valueEqual, callsEqual, nextEqual⟩
  rw [valueEqual, callsEqual, nextEqual]
  exact evaluates

/-! ## Single steps -/

theorem evaluatesTo_pure (value : α) (world : World) :
    (pure value : Dialogue World α).EvaluatesTo world value [] world := by
  intro earlier journal
  refine ⟨journal, ?_⟩
  rw [List.append_nil]
  rfl

theorem evaluatesTo_say (entries : List Entry) (world : World) :
    (say entries : Dialogue World Unit).EvaluatesTo world () [] world := by
  intro earlier journal
  refine ⟨entries.foldl Array.push journal, ?_⟩
  rw [List.append_nil]
  rfl

theorem evaluatesTo_receive (devices : Devices World) (world : World) :
    (receive devices).EvaluatesTo world (devices.read world).1 []
      (devices.read world).2 := by
  intro earlier journal
  refine ⟨journal, ?_⟩
  rw [List.append_nil]
  rfl

private theorem evaluatesTo_ask (devices : Devices World) (request : Request)
    (world : World) :
    (ask devices request).EvaluatesTo world (devices.perform request world).answer
      [⟨request, (devices.perform request world).answer⟩]
      (devices.perform request world).world := by
  intro earlier journal
  exact ⟨_, rfl⟩

theorem regular_pure (value : α) : (pure value : Dialogue World α).Regular :=
  fun world => ⟨_, _, _, evaluatesTo_pure value world⟩

theorem regular_receive (devices : Devices World) : (receive devices).Regular :=
  fun world => ⟨_, _, _, evaluatesTo_receive devices world⟩

/-! ## Sequences -/

theorem EvaluatesTo.bind {dialogue : Dialogue World α}
    {continuation : α → Dialogue World β}
    {world middle next : World} {value : α} {result : β} {calls more : List Call}
    (first : dialogue.EvaluatesTo world value calls middle)
    (rest : (continuation value).EvaluatesTo middle result more next) :
    (dialogue >>= continuation).EvaluatesTo world result (calls ++ more) next := by
  intro earlier journal
  rcases first earlier journal with ⟨written, firstEqual⟩
  rcases rest (earlier ++ calls) written with ⟨rewritten, restEqual⟩
  refine ⟨rewritten, ?_⟩
  rw [← List.append_assoc, ← restEqual]
  simp [Bind.bind, StateT.bind, firstEqual]

theorem Regular.bind {dialogue : Dialogue World α} {continuation : α → Dialogue World β}
    (first : dialogue.Regular) (rest : ∀ value, (continuation value).Regular) :
    (dialogue >>= continuation).Regular := by
  intro world
  rcases first world with ⟨value, calls, middle, evaluates⟩
  rcases rest value middle with ⟨result, more, next, continues⟩
  exact ⟨result, calls ++ more, next, evaluates.bind continues⟩

theorem EvaluatesTo.of_bind {dialogue : Dialogue World α}
    {continuation : α → Dialogue World β}
    {world next : World} {result : β} {calls : List Call}
    (evaluates : (dialogue >>= continuation).EvaluatesTo world result calls next)
    (first : dialogue.Regular) (rest : ∀ value, (continuation value).Regular) :
    ∃ value early middle late, dialogue.EvaluatesTo world value early middle ∧
      (continuation value).EvaluatesTo middle result late next ∧
        calls = early ++ late := by
  rcases first world with ⟨value, early, middle, begins⟩
  rcases rest value middle with ⟨other, late, reached, continues⟩
  rcases evaluates.unique (begins.bind continues) with ⟨rfl, rfl, rfl⟩
  exact ⟨value, early, middle, late, begins, continues, rfl⟩

theorem Regular.foldlM {items : List β} {step : α → β → Dialogue World α}
    (regular : ∀ value item, (step value item).Regular) :
    ∀ value, (items.foldlM step value).Regular := by
  induction items with
  | nil => exact fun value => regular_pure value
  | cons item rest induction =>
      intro value
      rw [List.foldlM_cons]
      exact (regular value item).bind induction

/-! ## The pulse driver -/

private theorem evaluatesTo_askPulse (devices : Devices World) (request : Pulse.Request)
    (world : World) :
    (askPulse devices request).EvaluatesTo world
      (devices.perform (.pulse request) world).answer.toOption
      [⟨.pulse request, (devices.perform (.pulse request) world).answer⟩]
      (devices.perform (.pulse request) world).world := by
  have asked := evaluatesTo_ask devices (.pulse request) world
  unfold askPulse
  cases answered : (devices.perform (.pulse request) world).answer with
  | ok reply =>
      rw [answered] at asked
      exact asked.bind (evaluatesTo_pure _ _)
  | error failure =>
      rw [answered] at asked
      exact asked.bind ((evaluatesTo_say _ _).bind (evaluatesTo_pure _ _))

end Dialogue

/-! ## Requests in turn -/

namespace Devices

variable {World : Type} (devices : Devices World)

def calls : (requests : List Request) → World → List Call
  | [], _ => []
  | request :: rest, world =>
      ⟨request, (devices.perform request world).answer⟩ ::
        calls rest (devices.perform request world).world

def after : (requests : List Request) → World → World
  | [], world => world
  | request :: rest, world => after rest (devices.perform request world).world

@[simp] theorem request_calls (requests : List Request) :
    ∀ world, (devices.calls requests world).map Call.request = requests := by
  induction requests with
  | nil => exact fun _ => rfl
  | cons request rest induction =>
      exact fun world => congrArg (request :: ·) (induction _)

theorem calls_append (first rest : List Request) :
    ∀ world, devices.calls (first ++ rest) world =
    devices.calls first world ++ devices.calls rest (devices.after first world) := by
  induction first with
  | nil => exact fun _ => rfl
  | cons request first induction =>
      exact fun world =>
        congrArg (_ :: ·) (induction (devices.perform request world).world)

private theorem after_append (first rest : List Request) :
    ∀ world, devices.after (first ++ rest) world =
    devices.after rest (devices.after first world) := by
  induction first with
  | nil => exact fun _ => rfl
  | cons request first induction =>
      exact fun world => induction (devices.perform request world).world

end Devices

/-- The dialogue comes to `value` and makes `requests`, however they are answered. -/
def Dialogue.Makes {World α : Type} (devices : Devices World)
    (dialogue : Dialogue World α)
    (world : World) (value : α) (requests : List Request) : Prop :=
  dialogue.EvaluatesTo world value (devices.calls requests world)
    (devices.after requests world)

namespace Dialogue.Makes

variable {World α β : Type} {devices : Devices World}

theorem pure (value : α) (world : World) :
    Dialogue.Makes devices (Pure.pure value : Dialogue World α) world value [] :=
  evaluatesTo_pure value world

theorem ask (devices : Devices World) (request : Request) (world : World) :
    Dialogue.Makes devices (Dialogue.ask devices request) world
      (devices.perform request world).answer [request] :=
  evaluatesTo_ask devices request world

theorem askPulse (devices : Devices World) (request : Pulse.Request) (world : World) :
    Dialogue.Makes devices (Dialogue.askPulse devices request) world
      (devices.perform (.pulse request) world).answer.toOption [.pulse request] :=
  evaluatesTo_askPulse devices request world

theorem bind {dialogue : Dialogue World α} {continuation : α → Dialogue World β}
    {world : World} {value : α} {result : β} {first rest : List Request}
    (begins : Dialogue.Makes devices dialogue world value first)
    (continues : Dialogue.Makes devices (continuation value)
      (devices.after first world) result
      rest) :
    Dialogue.Makes devices (dialogue >>= continuation) world result (first ++ rest) := by
  rw [Dialogue.Makes, devices.calls_append, devices.after_append]
  exact EvaluatesTo.bind begins continues

theorem returning {dialogue : Dialogue World α} {world : World} {value : α}
    {requests : List Request}
    (makes : Dialogue.Makes devices dialogue world value requests) (result : α → β) :
    Dialogue.Makes devices (dialogue >>= fun value => Pure.pure (result value)) world
      (result value) requests := by
  rw [← List.append_nil requests]
  exact makes.bind (.pure _ _)

theorem after_say {continuation : Unit → Dialogue World β} {world : World} {result : β}
    {requests : List Request} (entries : List Entry)
    (continues : Dialogue.Makes devices (continuation ()) world result requests) :
    Dialogue.Makes devices
      (Dialogue.say entries >>= continuation) world result requests :=
  EvaluatesTo.bind (evaluatesTo_say entries world) continues

theorem regular (devices : Devices World) {dialogue : Dialogue World α}
    (makes : ∀ world, ∃ value requests,
      Dialogue.Makes devices dialogue world value requests) :
    dialogue.Regular := by
  intro world
  rcases makes world with ⟨value, requests, made⟩
  exact ⟨value, _, _, made⟩

end Dialogue.Makes

end ClockDiscipline
