import ClockDiscipline.Proofs.Dialogue

/-!
Two dialogues side by side. Where the devices meet the same requests with the same
answers, both come to the same value and ask the same. Requests that only put something
out may be answered in any way.
-/

namespace ClockDiscipline

/-! ## Answers -/

/-- The request hands something on, and nothing but its failure comes back. -/
def Request.isOutput : Request → Bool
  | write _ => true
  | persist => true
  | pulse (.publish _) => true
  | _ => false

/-- The same request is met with the same answer, unless it is an output. -/
def Call.AgreesWith (call other : Call) : Prop :=
  call.request = other.request → call.request.isOutput = false → call = other

def AnswersAgree (calls others : List Call) : Prop :=
  ∀ pair ∈ calls.zip others, pair.1.AgreesWith pair.2

namespace AnswersAgree

variable {early late calls earlyToo lateToo others : List Call}

private theorem cons_iff {call other : Call} :
    AnswersAgree (call :: calls) (other :: others) ↔
      call.AgreesWith other ∧ AnswersAgree calls others := by
  rw [AnswersAgree, List.zip_cons_cons, List.forall_mem_cons]
  rfl

private theorem of_append (agree : AnswersAgree (early ++ late) (earlyToo ++ lateToo)) :
    AnswersAgree early earlyToo := by
  induction early generalizing earlyToo with
  | nil => simp [AnswersAgree]
  | cons call early induction =>
      cases earlyToo with
      | nil => simp [AnswersAgree]
      | cons other earlyToo =>
          rcases cons_iff.mp agree with ⟨first, rest⟩
          exact cons_iff.mpr ⟨first, induction rest⟩

private theorem of_append_of_asked
    (agree : AnswersAgree (early ++ late) (earlyToo ++ lateToo))
    (asked : early.map Call.request = earlyToo.map Call.request) :
    AnswersAgree late lateToo := by
  have length : early.length = earlyToo.length := by
    simpa using congrArg List.length asked
  rw [AnswersAgree, List.zip_append length, List.forall_mem_append] at agree
  exact agree.2

theorem eq_of_asked (agree : AnswersAgree calls others)
    (asked : calls.map Call.request = others.map Call.request)
    (inputs : ∀ call ∈ calls, call.request.isOutput = false) : calls = others := by
  induction calls generalizing others with
  | nil => exact (List.map_eq_nil_iff.mp asked.symm).symm
  | cons call calls induction =>
      cases others with
      | nil => cases asked
      | cons other others =>
          rcases List.cons.inj asked with ⟨same, rest⟩
          rcases cons_iff.mp agree with ⟨first, agree⟩
          rcases List.forall_mem_cons.mp inputs with ⟨input, inputs⟩
          rw [first same input, induction agree rest inputs]

end AnswersAgree

/-! ## Dialogues -/

namespace Dialogue

variable {World Other α β : Type}

/-- From these worlds the dialogues come to the same and ask the same, if the answers
agree. -/
def AlikeFrom (left : Dialogue World α) (world : World) (right : Dialogue Other α)
    (other : Other) : Prop :=
  ∀ ⦃value further calls others next otherNext⦄, left.EvaluatesTo world value calls next →
    right.EvaluatesTo other further others otherNext → AnswersAgree calls others →
      value = further ∧ calls.map Call.request = others.map Call.request

structure Alike (left : Dialogue World α) (right : Dialogue Other α) : Prop where
  regular : left.Regular
  regularToo : right.Regular
  same : ∀ world other, AlikeFrom left world right other

theorem AlikeFrom.of_evaluatesTo {left : Dialogue World α} {right : Dialogue Other α}
    {world next : World} {other otherNext : Other} {value further : α}
    {calls others : List Call} (evaluates : left.EvaluatesTo world value calls next)
    (evaluatesToo : right.EvaluatesTo other further others otherNext)
    (same : AnswersAgree calls others →
      value = further ∧ calls.map Call.request = others.map Call.request) :
    AlikeFrom left world right other := by
  intro result resultToo made madeToo reached reachedToo comes comesToo agree
  rcases comes.unique evaluates with ⟨rfl, rfl, -⟩
  rcases comesToo.unique evaluatesToo with ⟨rfl, rfl, -⟩
  exact same agree

theorem alike_pure (value : α) :
    Alike (pure value : Dialogue World α) (pure value : Dialogue Other α) where
  regular := regular_pure value
  regularToo := regular_pure value
  same world other :=
    .of_evaluatesTo (evaluatesTo_pure value world) (evaluatesTo_pure value other)
      fun _ => ⟨rfl, rfl⟩

theorem AlikeFrom.bind {left : Dialogue World α} {right : Dialogue Other α}
    {leftNext : α → Dialogue World β} {rightNext : α → Dialogue Other β} {world : World}
    {other : Other} (first : AlikeFrom left world right other) (regular : left.Regular)
    (regularToo : right.Regular)
    (rest : ∀ value, Alike (leftNext value) (rightNext value)) :
    AlikeFrom (left >>= leftNext) world (right >>= rightNext) other := by
  intro result resultToo calls others next otherNext evaluates evaluatesToo agree
  rcases evaluates.of_bind regular fun value => (rest value).regular with
    ⟨value, early, middle, late, begins, continues, rfl⟩
  rcases evaluatesToo.of_bind regularToo fun value => (rest value).regularToo with
    ⟨further, earlyToo, middleToo, lateToo, beginsToo, continuesToo, rfl⟩
  -- Up to here both have asked the same, so the rest of the answers stands side by side
  -- as well.
  rcases first begins beginsToo agree.of_append with ⟨rfl, asked⟩
  have agreeLater := agree.of_append_of_asked asked
  rcases (rest value).same _ _ continues continuesToo agreeLater with ⟨rfl, askedLater⟩
  exact ⟨rfl, by rw [List.map_append, asked, askedLater, List.map_append]⟩

theorem Alike.bind {left : Dialogue World α} {right : Dialogue Other α}
    {leftNext : α → Dialogue World β} {rightNext : α → Dialogue Other β}
    (first : Alike left right)
    (rest : ∀ value, Alike (leftNext value) (rightNext value)) :
    Alike (left >>= leftNext) (right >>= rightNext) where
  regular := first.regular.bind fun value => (rest value).regular
  regularToo := first.regularToo.bind fun value => (rest value).regularToo
  same world other :=
    (first.same world other).bind first.regular first.regularToo rest

theorem Alike.foldlM {items : List β} {left : α → β → Dialogue World α}
    {right : α → β → Dialogue Other α} (alike : ∀ value item, Alike (left value item)
      (right value item)) :
    ∀ value, Alike (items.foldlM left value) (items.foldlM right value) := by
  induction items with
  | nil => exact fun value => alike_pure value
  | cons item rest induction =>
      intro value
      rw [List.foldlM_cons, List.foldlM_cons]
      exact (alike value item).bind induction

theorem Makes.alikeFrom {devices : Devices World} {others : Devices Other}
    {left : Dialogue World α} {right : Dialogue Other α} {world : World} {other : Other}
    {value further : α} {requests : List Request}
    (makes : Makes devices left world value requests)
    (makesToo : Makes others right other further requests)
    (decides : AnswersAgree (devices.calls requests world) (others.calls requests other) →
      value = further) : AlikeFrom left world right other := by
  refine .of_evaluatesTo makes makesToo fun agree => ⟨decides agree, ?_⟩
  rw [devices.request_calls, others.request_calls]

end Dialogue

end ClockDiscipline
