import ClockDiscipline.Proofs.Station.Parts

/-!
Polls that meet an overflow. Only the first part of a poll and its step of synchronisation
can meet one, so such a poll has carried out no effect: whatever it asked of the devices
came of sentences.
-/

namespace ClockDiscipline.Station

variable {World : Type}

namespace Poll

variable {α β : Type}

/-- The poll makes no calls before it meets an overflow. -/
def HaltsSilently (poll : Poll World α) : Prop :=
  ∀ {world overflow calls next},
    Dialogue.EvaluatesTo poll.run world (.error overflow) calls next → calls = []

def Completes (poll : Poll World α) : Prop :=
  ∀ world, ∃ value calls next, poll.Reaches world value calls next

private theorem Decides.haltsSilently {poll : Poll World α} {outcome : Except Overflow α}
    (decides : poll.Decides outcome) : poll.HaltsSilently :=
  fun halts => ((decides _).unique halts).2.1.symm

private theorem Completes.not_halted {poll : Poll World α} (completes : poll.Completes)
    {world next : World} {overflow : Overflow} {calls : List Call} :
    ¬Dialogue.EvaluatesTo poll.run world (.error overflow) calls next := by
  intro halts
  rcases completes world with ⟨value, _, _, reaches⟩
  rcases Dialogue.EvaluatesTo.unique reaches halts with ⟨differs, -⟩
  cases differs

private theorem completes_converse {dialogue : Dialogue World α}
    (regular : dialogue.Regular) : (converse dialogue).Completes := by
  intro world
  rcases regular world with ⟨value, calls, next, evaluates⟩
  exact ⟨value, calls, next, (reaches_converse_iff regular).mpr evaluates⟩

private theorem Completes.bind {poll : Poll World α} {continuation : α → Poll World β}
    (first : poll.Completes) (rest : ∀ value, (continuation value).Completes) :
    (poll >>= continuation).Completes := by
  intro world
  rcases first world with ⟨value, calls, middle, begins⟩
  rcases rest value middle with ⟨result, more, next, continues⟩
  exact ⟨result, calls ++ more, next, begins.bind continues⟩

private theorem halted_of_bind {poll : Poll World α} {continuation : α → Poll World β}
    {world next : World} {overflow : Overflow} {calls : List Call}
    (halts : Dialogue.EvaluatesTo (poll >>= continuation).run world
      (.error overflow) calls next)
    (first : poll.Regular) (rest : ∀ value, (continuation value).Regular) :
    Dialogue.EvaluatesTo poll.run world (.error overflow) calls next ∨
      ∃ value early middle late, poll.Reaches world value early middle ∧
        Dialogue.EvaluatesTo (continuation value).run middle (.error overflow) late next ∧
        calls = early ++ late := by
  rw [run_bind_eq] at halts
  rcases Dialogue.EvaluatesTo.of_bind halts first (regular_continuation rest) with
    ⟨outcome, early, middle, late, begins, continues, rfl⟩
  cases outcome with
  | ok value => exact .inr ⟨value, early, middle, late, begins, continues, rfl⟩
  | error met =>
      rcases Dialogue.EvaluatesTo.unique continues
        (Dialogue.evaluatesTo_pure _ middle) with
        ⟨same, rfl, rfl⟩
      cases same
      rw [List.append_nil]
      exact .inl begins

private theorem Decides.bind_haltsSilently {poll : Poll World α}
    {continuation : α → Poll World β}
    {outcome : Except Overflow α} (first : poll.Decides outcome)
    (regular : ∀ value, (continuation value).Regular)
    (rest : ∀ value, (continuation value).HaltsSilently) :
    (poll >>= continuation).HaltsSilently := by
  intro world overflow calls next halts
  rcases halted_of_bind halts first.regular regular with
    begins | ⟨value, early, middle, late, begins, continues, rfl⟩
  · exact first.haltsSilently begins
  · rw [(first.reaches_iff.mp begins).2.1, rest value continues, List.append_nil]

end Poll

variable (devices : Devices World) (now : Nat) (station : Station)

private theorem haltsSilently_hearLink :
    (station.hearLink devices now).HaltsSilently := by
  intro world overflow calls next halts
  rcases Poll.halted_of_bind halts (regular_readLink devices now station)
    (regular_hearAssembled devices now) with begins | ⟨listening, _, _, _, -,
      continues, -⟩
  · exact ((evaluatesTo_readLink devices now station world).unique begins).2.1.symm
  · -- Bytes that were read are heard without overflow.
    have completes : (Poll.converse listening.assemble >>= fun assembled =>
        Poll.converse (assembled.hearSentences devices now)).Completes :=
      (Poll.completes_converse (regular_assemble listening)).bind fun assembled =>
        Poll.completes_converse (regular_hearSentences devices now assembled)
    exact absurd continues completes.not_halted

private theorem haltsSilently_conclude (wallTime : Int) :
    (station.conclude devices now wallTime).HaltsSilently := by
  refine (decides_watch now station).bind_haltsSilently
    (fun observed => regular_advanceAndAct devices now observed wallTime)
    fun observed => ?_
  refine (decides_advance now observed wallTime).bind_haltsSilently
    (fun (effects, acting) =>
      Poll.regular_converse (regular_act devices acting effects)) ?_
  rintro ⟨effects, acting⟩ world overflow calls next halts
  exact absurd halts
    (Poll.completes_converse (regular_act devices acting effects)).not_halted

/-- A poll that meets an overflow has asked the devices for nothing but what sentences led
to. -/
theorem isForReception_of_halted {wallTime : Int} {world next : World}
    {overflow : Overflow} {calls : List Call}
    (halts : Dialogue.EvaluatesTo (station.poll devices now wallTime).run world
      (.error overflow)
      calls next) :
    ∀ call ∈ calls, call.request.IsForReception := by
  rw [poll_eq] at halts
  rcases Poll.halted_of_bind halts (regular_hearLink devices now station)
    (fun heard => regular_conclude devices now heard wallTime) with
    begins | ⟨heard, hearing, middle, late, hears, concludes, rfl⟩
  · rw [haltsSilently_hearLink devices now station begins]
    exact List.forall_mem_nil _
  · rw [haltsSilently_conclude devices now heard wallTime concludes, List.append_nil]
    rcases (reaches_hearLink_iff devices now station).mp hears with
      ⟨listening, reception, -, -, evaluates⟩
    exact (Reception.heard_of_evaluatesTo devices now evaluates).requests

theorem regular_poll (wallTime : Int) : (station.poll devices now wallTime).Regular := by
  rw [poll_eq]
  exact (regular_hearLink devices now station).bind fun heard =>
    regular_conclude devices now heard wallTime

end ClockDiscipline.Station
