import ClockDiscipline.Proofs.Dialogue
import ClockDiscipline.Station.Basic

/-!
What a poll amounts to. A poll that meets no overflow comes to a value like a dialogue
does. Its parts either decide something without asking the devices, or are dialogues that
meet no overflow.
-/

namespace ClockDiscipline.Station

open Dialogue

namespace Poll

variable {World α β : Type}

/-- The poll meets no overflow and comes to `value` by way of `calls`. -/
def Reaches (poll : Poll World α) (world : World) (value : α) (calls : List Call)
    (next : World) : Prop :=
  Dialogue.EvaluatesTo poll.run world (.ok value) calls next

def Regular (poll : Poll World α) : Prop := Dialogue.Regular poll.run

private theorem Reaches.unique {poll : Poll World α} {world next otherNext : World}
    {value otherValue : α} {calls otherCalls : List Call}
    (left : poll.Reaches world value calls next)
    (right : poll.Reaches world otherValue otherCalls otherNext) :
    value = otherValue ∧ calls = otherCalls ∧ next = otherNext := by
  rcases Dialogue.EvaluatesTo.unique left right with ⟨same, rest⟩
  exact ⟨Except.ok.inj same, rest⟩

/-! ## Polls that ask nothing -/

/-- The poll decides `outcome` and asks the devices nothing. -/
def Decides (poll : Poll World α) (outcome : Except Overflow α) : Prop :=
  ∀ world, Dialogue.EvaluatesTo poll.run world outcome [] world

theorem decides_pure (value : α) : (pure value : Poll World α).Decides (.ok value) :=
  fun world => evaluatesTo_pure _ world

theorem decides_throw (overflow : Overflow) :
    (throw overflow : Poll World α).Decides (.error overflow) :=
  fun world => evaluatesTo_pure _ world

theorem decides_lift (outcome : Except Overflow α) :
    (liftM outcome : Poll World α).Decides outcome :=
  fun world => evaluatesTo_pure _ world

private theorem decides_say (entries : List Entry) :
    (say entries : Poll World Unit).Decides (.ok ()) := by
  intro world
  rw [say, converse, ExceptT.run_lift, map_eq_pure_bind]
  exact (evaluatesTo_say entries world).bind (evaluatesTo_pure _ world)

theorem Decides.regular {poll : Poll World α} {outcome : Except Overflow α}
    (decides : poll.Decides outcome) : poll.Regular :=
  fun world => ⟨_, _, _, decides world⟩

theorem Decides.reaches_iff {poll : Poll World α} {outcome : Except Overflow α}
    (decides : poll.Decides outcome) {world next : World} {value : α}
    {calls : List Call} :
    poll.Reaches world value calls next ↔
      outcome = .ok value ∧ calls = [] ∧ next = world := by
  rw [Reaches, (decides world).iff, eq_comm]

/-! ## Sequences -/

theorem Decides.bind {poll : Poll World α} {continuation : α → Poll World β}
    {outcome : Except Overflow α} {next : α → Except Overflow β}
    (first : poll.Decides outcome)
    (rest : ∀ value, (continuation value).Decides (next value)) :
    (poll >>= continuation).Decides (outcome >>= next) := by
  intro world
  rw [ExceptT.run_bind]
  cases outcome with
  | ok value => exact (first world).bind (rest value world)
  | error overflow => exact (first world).bind (evaluatesTo_pure _ world)

theorem Decides.after_say {continuation : Unit → Poll World α}
    {outcome : Except Overflow α}
    (entries : List Entry) (rest : (continuation ()).Decides outcome) :
    (say entries >>= continuation).Decides outcome :=
  (decides_say entries).bind fun _ => rest

theorem Reaches.bind {poll : Poll World α} {continuation : α → Poll World β}
    {world middle next : World} {value : α} {result : β} {calls more : List Call}
    (first : poll.Reaches world value calls middle)
    (rest : (continuation value).Reaches middle result more next) :
    (poll >>= continuation).Reaches world result (calls ++ more) next := by
  rw [Reaches, ExceptT.run_bind]
  exact Dialogue.EvaluatesTo.bind first rest

theorem run_bind_eq (poll : Poll World α) (continuation : α → Poll World β) :
    (poll >>= continuation).run = (poll.run >>= ExceptT.bindCont continuation) := rfl

theorem regular_continuation {continuation : α → Poll World β}
    (rest : ∀ value, (continuation value).Regular) (outcome : Except Overflow α) :
    Dialogue.Regular (ExceptT.bindCont continuation outcome) := by
  cases outcome with
  | ok value => exact rest value
  | error overflow => exact regular_pure _

theorem Regular.bind {poll : Poll World α} {continuation : α → Poll World β}
    (first : poll.Regular) (rest : ∀ value, (continuation value).Regular) :
    (poll >>= continuation).Regular :=
  Dialogue.Regular.bind first (regular_continuation rest)

theorem Reaches.of_bind {poll : Poll World α} {continuation : α → Poll World β}
    {world next : World} {result : β} {calls : List Call}
    (reaches : (poll >>= continuation).Reaches world result calls next)
    (first : poll.Regular) (rest : ∀ value, (continuation value).Regular) :
    ∃ value early middle late, poll.Reaches world value early middle ∧
      (continuation value).Reaches middle result late next ∧ calls = early ++ late := by
  rw [Reaches, run_bind_eq] at reaches
  rcases Dialogue.EvaluatesTo.of_bind reaches first (regular_continuation rest) with
    ⟨outcome, early, middle, late, begins, continues, rfl⟩
  cases outcome with
  | ok value => exact ⟨value, early, middle, late, begins, continues, rfl⟩
  | error overflow =>
      rcases Dialogue.EvaluatesTo.unique continues (evaluatesTo_pure _ middle) with
        ⟨differs, _⟩
      cases differs

/-! ## Dialogues in polls -/

theorem reaches_converse_iff {dialogue : Dialogue World α} (regular : dialogue.Regular)
    {world next : World} {value : α} {calls : List Call} :
    (converse dialogue).Reaches world value calls next ↔
      dialogue.EvaluatesTo world value calls next := by
  have lifts {value : α} {calls : List Call} {next : World}
      (evaluates : dialogue.EvaluatesTo world value calls next) :
      (converse dialogue).Reaches world value calls next := by
    rw [Reaches, converse, ExceptT.run_lift, map_eq_pure_bind, ← List.append_nil calls]
    exact evaluates.bind (evaluatesTo_pure _ next)
  refine ⟨fun reaches => ?_, lifts⟩
  rcases regular world with ⟨other, early, middle, evaluates⟩
  rcases reaches.unique (lifts evaluates) with ⟨rfl, rfl, rfl⟩
  exact evaluates

theorem regular_converse {dialogue : Dialogue World α} (regular : dialogue.Regular) :
    (converse dialogue).Regular := by
  rw [Regular, converse, ExceptT.run_lift, map_eq_pure_bind]
  exact Dialogue.Regular.bind regular fun _ => regular_pure _

end Poll

end ClockDiscipline.Station
