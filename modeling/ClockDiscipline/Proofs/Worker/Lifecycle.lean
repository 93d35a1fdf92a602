import ClockDiscipline.Worker.Rehearsal
import Mathlib.Data.List.Chain

/-!
Whether the threads of a worker come to an end. A worker keeps one status, one flag and
one handle for all of its threads, and a start sets all three without a look at the thread
before. So its threads end in order if and only if a start that succeeds is followed by a
stop.
-/

namespace ClockDiscipline.Worker

variable {σ : Type} {routine : Routine σ}

/-! ## Calls -/

inductive Demand (σ : Type) where
  | start (opening : Opening σ)
  | stop

def Move.demand? : Move σ → Option (Demand σ)
  | start opening => some (.start opening)
  | stop => some .stop
  | _ => none

def demandsOf (moves : List (Move σ)) : List (Demand σ) := moves.filterMap Move.demand?

@[simp] theorem demandsOf_append (first rest : List (Move σ)) :
    demandsOf (first ++ rest) = demandsOf first ++ demandsOf rest :=
  List.filterMap_append

def Demand.opens : Demand σ → Bool
  | start opening => opening.outcome.isOk
  | stop => false

/-- A start whose station is opened is followed by a stop, if by anything. -/
def StopsBetween (calls : List (Demand σ)) : Prop :=
  calls.IsChain fun first next => first.opens = true → next = .stop

private theorem stopsBetween_concat_iff {calls : List (Demand σ)} {next : Demand σ} :
    StopsBetween (calls ++ [next]) ↔
      StopsBetween calls ∧ ∀ latest ∈ calls.getLast?, latest.opens = true →
        next = .stop := by
  simp [StopsBetween, List.isChain_append]

/-! ## Order -/

/-- The thread has ended, and the station that it had open is shut down. -/
def Thread.IsShutDown (routine : Routine σ) (thread : Thread σ) : Prop :=
  thread = .ended none ∨ ∃ last, thread = .ended (some (routine.shutDown last).1)

private theorem Thread.IsShutDown.polls {thread : Thread σ}
    (shut : thread.IsShutDown routine) : thread.polls = false := by
  rcases shut with rfl | ⟨last, rfl⟩ <;> rfl

structure Orderly (routine : Routine σ) (worker : Worker σ) : Prop where
  settled : ∀ last, worker.caller = .idle (some last) → last ≠ .started →
    (∀ thread ∈ worker.threads, thread.IsShutDown routine) ∧ worker.isRunning = false
  single : worker.threads.countP Thread.polls ≤ 1

/-! ## Runs -/

@[simp] theorem run?_nil (worker : Worker σ) : worker.run? routine [] = some worker := rfl

@[simp] theorem run?_cons (worker : Worker σ) (move : Move σ) (rest : List (Move σ)) :
    worker.run? routine (move :: rest) =
      (worker.step? routine move).bind (·.run? routine rest) :=
  rfl

private theorem run?_singleton (worker : Worker σ) (move : Move σ) :
    worker.run? routine [move] = worker.step? routine move :=
  Option.bind_fun_some _

private theorem run?_append (worker : Worker σ) (first rest : List (Move σ)) :
    worker.run? routine (first ++ rest) =
      (worker.run? routine first).bind (·.run? routine rest) :=
  List.foldlM_append

section Saying

variable (worker : Worker σ) (entries : List Entry)

@[simp] theorem status_say : (worker.say entries).status = worker.status := rfl
@[simp] theorem threads_say : (worker.say entries).threads = worker.threads := rfl
@[simp] theorem handle_say : (worker.say entries).handle = worker.handle := rfl
@[simp] theorem caller_say : (worker.say entries).caller = worker.caller := rfl

end Saying

/-! ## The latest thread -/

/-- How far the thread has come that opens `opening`, and what the status tells of it. -/
inductive Course (routine : Routine σ) (opening : Opening σ) : Thread σ → Status → Prop
  | opening : Course routine opening (.opening opening) .starting
  | refused : Course routine opening .refused .starting
  | failed : Course routine opening (.ended none) .failed
  | opened (opens : opening.outcome.isOk = true) (station : σ) :
      Course routine opening (.opened station) .starting
  | looking (opens : opening.outcome.isOk = true) (station : σ) :
      Course routine opening (.looking station) .running
  | polling (opens : opening.outcome.isOk = true) (station : σ) :
      Course routine opening (.polling station) .running
  | closing (opens : opening.outcome.isOk = true) (station : σ) :
      Course routine opening (.closing station) .running
  | closed (opens : opening.outcome.isOk = true) (last : σ) :
      Course routine opening (.closed (routine.shutDown last).1) .running
  | ended (opens : opening.outcome.isOk = true) (last : σ) :
      Course routine opening (.ended (some (routine.shutDown last).1)) .stopped
  | broken (opens : opening.outcome.isOk = true) (station : σ) :
      Course routine opening (.broken station) .running

def Status.hasStarted : Status → Bool
  | running => true
  | stopped => true
  | _ => false

private theorem Status.eq_stopped {status : Status} (started : status.hasStarted = true)
    (elsewhere : status ≠ .running) : status = .stopped := by
  cases status with
  | stopped => rfl
  | running => exact absurd rfl elsewhere
  | starting => cases started
  | failed => cases started

namespace Course

variable {opening : Opening σ} {thread next : Thread σ} {status : Status}
  {worker after : Worker σ}

private theorem opens_of_hasStarted (course : Course routine opening thread status)
    (started : status.hasStarted = true) : opening.outcome.isOk = true := by
  cases course with
  | opening => cases started
  | refused => cases started
  | failed => cases started
  | opened => cases started
  | looking opens => exact opens
  | polling opens => exact opens
  | closing opens => exact opens
  | closed opens => exact opens
  | ended opens => exact opens
  | broken opens => exact opens

private theorem isShutDown_of_failed (course : Course routine opening thread .failed) :
    thread.IsShutDown routine := by
  cases course with
  | failed => exact .inl rfl

private theorem isShutDown_of_stopped (course : Course routine opening thread .stopped) :
    thread.IsShutDown routine := by
  cases course with
  | ended _ last => exact .inr ⟨last, rfl⟩

/-- A thread goes on in its course, and once it has started the status never tells
otherwise. -/
private theorem advance (course : Course routine opening thread worker.status)
    (moved : worker.advance routine thread = some (next, after)) :
    Course routine opening next after.status ∧
      (worker.status.hasStarted = true → after.status.hasStarted = true) := by
  generalize told : worker.status = status at course ⊢
  cases course with
  | opening =>
      rw [Worker.advance] at moved
      split at moved
      · rename_i station opened
        cases moved
        have opens : opening.outcome.isOk = true := by rw [opened]; rfl
        rw [status_say, told]
        exact ⟨.opened opens station, id⟩
      · cases moved
        rw [status_say, told]
        exact ⟨.refused, id⟩
  | refused =>
      cases moved
      refine ⟨.failed, ?_⟩
      intro started
      cases started
  | failed => cases moved
  | opened opens station =>
      cases moved
      exact ⟨.looking opens station, fun _ => rfl⟩
  | looking opens station =>
      rw [Worker.advance] at moved
      split at moved <;> cases moved <;> rw [told]
      · exact ⟨.closing opens station, id⟩
      · exact ⟨.polling opens station, id⟩
  | polling opens station =>
      rw [Worker.advance] at moved
      split at moved <;> cases moved <;> rw [status_say, told]
      · exact ⟨.looking opens _, id⟩
      · exact ⟨.broken opens station, id⟩
  | closing opens station =>
      cases moved
      rw [status_say, told]
      exact ⟨.closed opens station, id⟩
  | closed opens last =>
      cases moved
      exact ⟨.ended opens last, fun _ => rfl⟩
  | ended => cases moved
  | broken => cases moved

end Course

private theorem advance_frame {worker after : Worker σ} {thread next : Thread σ}
    (moved : worker.advance routine thread = some (next, after)) :
    after.threads = worker.threads ∧ after.handle = worker.handle ∧
      after.caller = worker.caller := by
  cases thread with
  | opening opening =>
      rw [advance] at moved
      split at moved <;> cases moved <;> exact ⟨rfl, rfl, rfl⟩
  | looking station =>
      cases moved
      exact ⟨rfl, rfl, rfl⟩
  | polling station =>
      rw [advance] at moved
      split at moved <;> cases moved <;> exact ⟨rfl, rfl, rfl⟩
  | ended station => cases moved
  | broken station => cases moved
  | _ =>
      cases moved
      exact ⟨rfl, rfl, rfl⟩

private theorem Thread.IsShutDown.advance_eq_none {worker : Worker σ} {thread : Thread σ}
    (shut : thread.IsShutDown routine) : worker.advance routine thread = none := by
  rcases shut with rfl | ⟨last, rfl⟩ <;> rfl

/-! ## Situations -/

/-- No thread is left, and the worker tells so. -/
structure Quiet (routine : Routine σ) (worker : Worker σ) : Prop where
  shut : ∀ thread ∈ worker.threads, thread.IsShutDown routine
  free : worker.handle = none
  status : worker.status ≠ .running

/-- The thread of the start of `opening` lives, or has not been joined. -/
structure Lives (routine : Routine σ) (opening : Opening σ) (older : List (Thread σ))
    (thread : Thread σ) (worker : Worker σ) : Prop where
  threads : worker.threads = older ++ [thread]
  shut : ∀ thread ∈ older, thread.IsShutDown routine
  handle : worker.handle = some older.length
  course : Course routine opening thread worker.status

/-- Where the caller stands meanwhile, if `latest` is the call that was begun last. -/
inductive Stage (opening : Opening σ) : Option (Demand σ) → Status → Caller σ → Prop
  | awaitingStart (status : Status) :
      Stage opening (some (.start opening)) status .awaitingStart
  | joiningRefused : Stage opening (some (.start opening)) .failed .joiningRefused
  | started {status : Status} (started : status.hasStarted = true) :
      Stage opening (some (.start opening)) status (.idle (some .started))
  | raising {status : Status} (started : status.hasStarted = true) :
      Stage opening (some .stop) status .raising
  | awaitingStop {status : Status} (started : status.hasStarted = true) :
      Stage opening (some .stop) status .awaitingStop
  | joiningStopped : Stage opening (some .stop) .stopped .joiningStopped

/-- What a worker is like when `latest` is the call that was begun last. -/
inductive Situation (routine : Routine σ) (latest : Option (Demand σ))
    (worker : Worker σ) :
    Prop
  | resting (quiet : Quiet routine worker) (last : Option Return)
      (caller : worker.caller = .idle last) (elsewhere : last ≠ some .started)
  | announcing (quiet : Quiet routine worker) (opening : Opening σ)
      (demanded : latest = some (.start opening))
        (caller : worker.caller = .announcing opening)
  | beginning (quiet : Quiet routine worker) (opening : Opening σ)
      (demanded : latest = some (.start opening)) (status : worker.status = .starting)
      (caller : worker.caller = .lowering opening ∨ worker.caller = .spawning opening)
  | living (opening : Opening σ) (older : List (Thread σ)) (thread : Thread σ)
      (lives : Lives routine opening older thread worker)
      (stage : Stage opening latest worker.status worker.caller)

/-! ## Order in every situation -/

private theorem countP_polls_of_shut {threads : List (Thread σ)}
    (shut : ∀ thread ∈ threads, thread.IsShutDown routine) :
    threads.countP Thread.polls = 0 := by
  rw [List.countP_eq_zero]
  intro thread member
  simp [(shut thread member).polls]

private theorem Quiet.orderly {worker : Worker σ} (quiet : Quiet routine worker) :
    Orderly routine worker := by
  constructor
  case settled =>
    intro last _ _
    exact ⟨quiet.shut, by simpa [isRunning] using quiet.status⟩
  case single => simp [countP_polls_of_shut quiet.shut]

section Stages

variable {opening : Opening σ} {latest : Option (Demand σ)} {status : Status}

private theorem Stage.of_idle {last : Option Return}
    (stage : Stage opening latest status (.idle last)) :
    last = some .started ∧ latest = some (.start opening) ∧ status.hasStarted = true := by
  cases stage with
  | started started => exact ⟨rfl, rfl, started⟩

private theorem Stage.stays {thread : Thread σ} {next : Status} {caller : Caller σ}
    (stage : Stage opening latest status caller)
    (course : Course routine opening thread status) (busy : ¬thread.IsShutDown routine)
    (started : status.hasStarted = true → next.hasStarted = true) :
    Stage opening latest next caller := by
  cases stage with
  | awaitingStart => exact .awaitingStart next
  | joiningRefused => exact absurd course.isShutDown_of_failed busy
  | started has => exact .started (started has)
  | raising has => exact .raising (started has)
  | awaitingStop has => exact .awaitingStop (started has)
  | joiningStopped => exact absurd course.isShutDown_of_stopped busy

end Stages

private theorem Lives.eq_of_busy {worker : Worker σ} {opening : Opening σ}
    {older : List (Thread σ)}
    {thread other : Thread σ} {index : Nat}
    (lives : Lives routine opening older thread worker)
    (found : worker.threads[index]? = some other) (busy : ¬other.IsShutDown routine) :
    index = older.length ∧ other = thread := by
  rw [lives.threads] at found
  have newer : older.length ≤ index := by
    by_contra early
    rw [List.getElem?_append_left (Nat.lt_of_not_le early)] at found
    exact busy (lives.shut other (List.mem_of_getElem? found))
  rw [List.getElem?_append_right newer, List.getElem?_singleton] at found
  split at found
  · rename_i latest
    exact ⟨by omega, (Option.some.inj found).symm⟩
  · cases found

namespace Situation

variable {latest : Option (Demand σ)} {worker after : Worker σ}

private theorem initial : Situation routine latest (.new : Worker σ) :=
  .resting ⟨by simp [new], rfl, by simp [new]⟩ none rfl (by simp)

private theorem orderly (situation : Situation routine latest worker) :
    Orderly routine worker := by
  cases situation with
  | resting quiet => exact quiet.orderly
  | announcing quiet => exact quiet.orderly
  | beginning quiet => exact quiet.orderly
  | living opening older thread lives stage =>
      constructor
      case settled =>
        intro last caller elsewhere
        rw [caller] at stage
        exact absurd (Option.some.inj stage.of_idle.1) elsewhere
      case single =>
        rw [lives.threads, List.countP_append, countP_polls_of_shut lives.shut,
          Nat.zero_add]
        exact List.countP_le_length

private theorem of_isIdle (situation : Situation routine latest worker)
    (idle : worker.caller.isIdle = true) :
    Quiet routine worker ∨ ∃ opening older thread,
      Lives routine opening older thread worker ∧
      latest = some (.start opening) ∧ worker.status.hasStarted = true := by
  cases situation with
  | resting quiet => exact .inl quiet
  | announcing quiet => exact .inl quiet
  | beginning quiet => exact .inl quiet
  | living opening older thread lives stage =>
      cases caller : worker.caller with
      | idle last =>
          rw [caller] at stage
          exact .inr ⟨opening, older, thread, lives, stage.of_idle.2⟩
      | _ =>
          rw [caller] at idle
          cases idle

/-! ### One move -/

private theorem start {opening : Opening σ} (situation : Situation routine latest worker)
    (follows : ∀ call ∈ latest, call.opens = true → .start opening = Demand.stop)
    (moved : worker.start? opening = some after) :
    Situation routine (some (.start opening)) after := by
  unfold start? begin? at moved
  split at moved
  · rename_i idle
    cases moved
    rcases situation.of_isIdle idle with
      quiet | ⟨earlier, older, thread, lives, rfl, started⟩
    · exact .announcing ⟨quiet.shut, quiet.free, quiet.status⟩ opening rfl rfl
    · -- The thread of the start before is still there, and only a stop may be next.
      cases follows _ rfl (lives.course.opens_of_hasStarted started)
  · cases moved

private theorem stop (situation : Situation routine latest worker)
    (moved : worker.stop? = some after) :
    Situation routine (some .stop) after := by
  unfold stop? begin? at moved
  split at moved
  · rename_i idle
    cases moved
    rcases situation.of_isIdle idle with
      quiet | ⟨opening, older, thread, lives, -, started⟩
    · rw [quiet.free]
      exact .resting ⟨quiet.shut, rfl, quiet.status⟩ _ rfl (by simp)
    · rw [lives.handle]
      exact .living opening older thread ⟨lives.threads, lives.shut, rfl, lives.course⟩
        (.raising started)
  · cases moved

private theorem deny (situation : Situation routine latest worker)
    (moved : worker.deny? = some after) :
    Situation routine latest after := by
  unfold deny? at moved
  split at moved
  · rename_i caller
    cases moved
    cases situation with
    | resting _ _ elsewhere => simp [caller] at elsewhere
    | announcing _ _ _ elsewhere => simp [caller] at elsewhere
    | beginning quiet =>
        exact .resting ⟨quiet.shut, quiet.free, quiet.status⟩ _ rfl (by simp)
    | living opening older thread lives stage =>
        rw [caller] at stage
        generalize worker.status = status at stage
        cases stage
  · cases moved

private theorem thread {index : Nat} (situation : Situation routine latest worker)
    (moved : worker.advance? routine index = some after) :
    Situation routine latest after := by
  simp only [Worker.advance?, Option.bind_eq_bind, Option.bind_eq_some_iff] at moved
  rcases moved with ⟨moving, found, ⟨next, moved⟩, advanced, rest⟩
  cases rest
  have busy : ¬moving.IsShutDown routine := by
    intro shut
    rw [shut.advance_eq_none] at advanced
    cases advanced
  have member : moving ∈ worker.threads := List.mem_of_getElem? found
  cases situation with
  | resting quiet => exact absurd (quiet.shut moving member) busy
  | announcing quiet => exact absurd (quiet.shut moving member) busy
  | beginning quiet => exact absurd (quiet.shut moving member) busy
  | living opening older thread lives stage =>
      rcases lives.eq_of_busy found busy with ⟨rfl, rfl⟩
      rcases advance_frame advanced with ⟨threads_eq, handle_eq, caller_eq⟩
      rcases lives.course.advance advanced with ⟨course, started⟩
      have stage := stage.stays lives.course busy started
      rw [← caller_eq] at stage
      refine .living opening older next
        ⟨?_, lives.shut, handle_eq.trans lives.handle, course⟩ stage
      simp [threads_eq, lives.threads]

private theorem join {opening : Opening σ} {older : List (Thread σ)} {thread : Thread σ}
    {last : Return}
    (lives : Lives routine opening older thread worker)
    (joined : thread.IsShutDown routine)
    (status : worker.status ≠ .running) (elsewhere : last ≠ .started)
    (moved : worker.join? last = some after) : Situation routine latest after := by
  have found : worker.handle.bind (worker.threads[·]?) = some thread := by
    simp [lives.handle, lives.threads]
  have shut : ∀ thread ∈ worker.threads, thread.IsShutDown routine := by
    rw [lives.threads]
    simpa [or_imp, forall_and] using ⟨lives.shut, joined⟩
  unfold join? at moved
  rw [found] at moved
  rcases joined with rfl | ⟨final, rfl⟩ <;> cases moved <;>
    exact .resting ⟨shut, rfl, status⟩ _ rfl (by simpa using elsewhere)

private theorem proceed_of_lives {opening : Opening σ} {older : List (Thread σ)}
    {thread : Thread σ} (lives : Lives routine opening older thread worker)
    (stage : Stage opening latest worker.status worker.caller)
    (moved : worker.proceed? = some after) : Situation routine latest after := by
  have goesOn {next : Caller σ} (stage : Stage opening latest worker.status next) :
      Situation routine latest { worker with caller := next } :=
    .living opening older thread
      ⟨lives.threads, lives.shut, lives.handle, lives.course⟩ stage
  have course := lives.course
  generalize told : worker.status = status at course stage
  generalize stands : worker.caller = caller at stage
  cases stage with
  | awaitingStart =>
      simp only [proceed?, stands] at moved
      split at moved
      · rename_i running
        cases moved
        exact goesOn (by rw [running]; exact .started rfl)
      · rename_i failed
        cases moved
        exact goesOn (by rw [failed]; exact .joiningRefused)
      · cases moved
  | joiningRefused =>
      simp only [proceed?, stands] at moved
      exact join lives course.isShutDown_of_failed (by simp [told]) (by simp) moved
  | started => simp [proceed?, stands] at moved
  | raising started =>
      simp only [proceed?, stands, Option.some.injEq] at moved
      rw [← moved]
      exact .living opening older thread
        ⟨lives.threads, lives.shut, lives.handle, lives.course⟩
        (.awaitingStop (told ▸ started))
  | awaitingStop started =>
      simp only [proceed?, stands] at moved
      split at moved
      · cases moved
      · rename_i ended
        cases moved
        have stopped : worker.status = .stopped :=
          told.trans (Status.eq_stopped started (by simpa [isRunning, told] using ended))
        exact goesOn (by rw [stopped]; exact .joiningStopped)
  | joiningStopped =>
      simp only [proceed?, stands] at moved
      exact join lives course.isShutDown_of_stopped (by simp [told]) (by simp) moved

private theorem proceed (situation : Situation routine latest worker)
    (moved : worker.proceed? = some after) : Situation routine latest after := by
  cases situation with
  | resting _ _ caller => simp [proceed?, caller] at moved
  | announcing quiet opening demanded caller =>
      simp only [proceed?, caller, Option.some.injEq] at moved
      rw [← moved]
      exact .beginning ⟨quiet.shut, quiet.free, by simp⟩ opening demanded rfl (.inl rfl)
  | beginning quiet opening demanded status caller =>
      rcases caller with caller | caller
      · simp only [proceed?, caller, Option.some.injEq] at moved
        rw [← moved]
        exact .beginning ⟨quiet.shut, quiet.free, quiet.status⟩ opening demanded status
          (.inr rfl)
      · simp only [proceed?, caller, Option.some.injEq] at moved
        rw [← moved, demanded]
        have course : Course routine opening (.opening opening) worker.status := by
          rw [status]
          exact .opening
        exact .living opening worker.threads _ ⟨rfl, quiet.shut, rfl, course⟩
          (.awaitingStart _)
  | living opening older thread lives stage => exact proceed_of_lives lives stage moved

private theorem step {move : Move σ} (situation : Situation routine latest worker)
    (follows : ∀ next ∈ move.demand?, ∀ call ∈ latest, call.opens = true → next = .stop)
    (moved : worker.step? routine move = some after) :
    Situation routine (move.demand?.or latest) after := by
  cases move with
  | start opening => exact situation.start (follows _ rfl) moved
  | stop => exact situation.stop moved
  | proceed => exact situation.proceed moved
  | deny => exact situation.deny moved
  | thread index => exact situation.thread moved

end Situation

private theorem situation_of_run? {moves : List (Move σ)} {worker : Worker σ}
    (ran : new.run? routine moves = some worker)
    (between : StopsBetween (demandsOf moves)) :
    Situation routine (demandsOf moves).getLast? worker := by
  induction moves using List.reverseRecOn generalizing worker with
  | nil =>
      cases ran
      exact .initial
  | append_singleton moves move induction =>
      simp only [run?_append, run?_singleton, Option.bind_eq_some_iff] at ran
      rcases ran with ⟨before, ran, moved⟩
      cases demanded : move.demand? with
      | none =>
          have same : demandsOf (moves ++ [move]) = demandsOf moves := by
            simp [demandsOf, demanded]
          rw [same] at between ⊢
          have goesOn := (induction ran between).step (by simp [demanded]) moved
          rwa [demanded] at goesOn
      | some call =>
          have more : demandsOf (moves ++ [move]) = demandsOf moves ++ [call] := by
            simp [demandsOf, demanded]
          rw [more] at between ⊢
          rcases stopsBetween_concat_iff.mp between with ⟨before, follows⟩
          have goesOn :=
            (induction ran before).step (by simpa [demanded] using follows) moved
          rw [demanded] at goesOn
          rwa [List.getLast?_concat]

/-! ## Calls that come back -/

/-- The caller waits, and a thread works if the latest call has opened a station. -/
inductive Settled (latest : Option (Demand σ)) (worker : Worker σ) : Prop
  | free (last : Option Return) (caller : worker.caller = .idle last)
      (closed : latest.any Demand.opens = false) (handle : worker.handle = none)
  | working (older : List (Thread σ)) (station : σ) (last : Option Return)
      (caller : worker.caller = .idle last)
        (threads : worker.threads = older ++ [.looking station])
      (handle : worker.handle = some older.length)

def promptStart (opening : Opening σ) (index : Nat) : List (Move σ) :=
  [.start opening, .proceed, .proceed, .proceed, .thread index, .thread index,
    .proceed] ++
    if opening.outcome.isOk then [] else [.proceed]

def promptStop (index : Nat) : List (Move σ) :=
  [.stop, .proceed, .thread index, .thread index, .thread index, .proceed, .proceed]

private theorem demandsOf_promptStart (opening : Opening σ) (index : Nat) :
    demandsOf (promptStart opening index) = [.start opening] := by
  unfold promptStart
  split <;> rfl

section Prompt

variable {worker : Worker σ} {last : Option Return} {opening : Opening σ} {station : σ}

private theorem exists_start_of_ok (caller : worker.caller = .idle last)
    (opened : opening.outcome = .ok station) :
    ∃ after,
      worker.run? routine (promptStart opening worker.threads.length) = some after ∧
      after.caller = .idle (some .started) ∧ after.handle = some worker.threads.length ∧
      after.threads = worker.threads ++ [.looking station] := by
  simp [promptStart, opened, step?, start?, begin?, caller, Caller.isIdle, proceed?,
    advance?, advance, Except.isOk, Except.toBool]

private theorem exists_start_of_error {cause : Station.OpenFailure}
    (caller : worker.caller = .idle last) (failed : opening.outcome = .error cause) :
    ∃ after,
      worker.run? routine (promptStart opening worker.threads.length) = some after ∧
      after.caller = .idle (some .refused) ∧ after.handle = none ∧
      after.threads = worker.threads ++ [.ended none] := by
  simp [promptStart, failed, step?, start?, begin?, caller, Caller.isIdle, proceed?,
    advance?, advance, Except.isOk, Except.toBool, join?, Thread.isOver]

private theorem exists_stop_of_working {older : List (Thread σ)}
    (caller : worker.caller = .idle last)
    (threads : worker.threads = older ++ [.looking station])
    (handle : worker.handle = some older.length) :
    ∃ after, worker.run? routine (promptStop older.length) = some after ∧
      after.caller = .idle (some .stopped) ∧ after.handle = none := by
  simp [promptStop, step?, stop?, begin?, caller, handle, threads, Caller.isIdle,
    proceed?, advance?, advance, isRunning, join?, Thread.isOver]

private theorem exists_stop_of_free (caller : worker.caller = .idle last)
    (handle : worker.handle = none) :
    ∃ after, worker.run? routine [.stop] = some after ∧
      after.caller = .idle (some .stopped) ∧ after.handle = none := by
  simp [step?, stop?, begin?, caller, handle, Caller.isIdle]

end Prompt

private theorem exists_settled_of_call {latest : Option (Demand σ)} {worker : Worker σ}
    (settled : Settled latest worker) (call : Demand σ) :
    ∃ moves after, worker.run? routine moves = some after ∧ demandsOf moves = [call] ∧
      Settled (some call) after := by
  have waits : ∃ last, worker.caller = .idle last := by
    cases settled with
    | free last caller => exact ⟨last, caller⟩
    | working _ _ last caller => exact ⟨last, caller⟩
  rcases waits with ⟨last, caller⟩
  cases call with
  | start opening =>
      cases outcome : opening.outcome with
      | ok station =>
          rcases exists_start_of_ok caller outcome with
            ⟨after, ran, idle, handle, threads⟩
          exact ⟨_, after, ran, demandsOf_promptStart _ _,
            .working _ station _ idle threads handle⟩
      | error cause =>
          rcases exists_start_of_error caller outcome with ⟨after, ran, idle, handle, -⟩
          have closed : (some (Demand.start opening)).any Demand.opens = false := by
            simp [Demand.opens, outcome, Except.isOk, Except.toBool]
          exact ⟨_, after, ran, demandsOf_promptStart _ _, .free _ idle closed handle⟩
  | stop =>
      cases settled with
      | free _ caller _ handle =>
          rcases exists_stop_of_free caller handle with ⟨after, ran, idle, free⟩
          exact ⟨_, after, ran, rfl, .free _ idle rfl free⟩
      | working older station _ caller threads handle =>
          rcases exists_stop_of_working caller threads handle with
            ⟨after, ran, idle, free⟩
          exact ⟨_, after, ran, rfl, .free _ idle rfl free⟩

private theorem exists_settled (routine : Routine σ) (calls : List (Demand σ)) :
    ∃ moves worker, new.run? routine moves = some worker ∧ demandsOf moves = calls ∧
      Settled calls.getLast? worker := by
  induction calls using List.reverseRecOn with
  | nil => exact ⟨[], new, rfl, rfl, .free none rfl rfl rfl⟩
  | append_singleton calls call induction =>
      rcases induction with ⟨moves, worker, ran, demanded, settled⟩
      rcases exists_settled_of_call settled call with ⟨more, after, goesOn, next, settled⟩
      refine ⟨moves ++ more, after, ?_, by rw [demandsOf_append, demanded, next], ?_⟩
      · rw [run?_append, ran]
        exact goesOn
      · rwa [List.getLast?_concat]

/-- A start while a thread works leads to disorder: there are two threads, or the new one
fails and the old one works on. -/
theorem exists_disorder {worker : Worker σ} {last : Option Return}
    {older : List (Thread σ)} {station : σ} (caller : worker.caller = .idle last)
    (threads : worker.threads = older ++ [.looking station]) (opening : Opening σ) :
    ∃ moves after, worker.run? routine moves = some after ∧
      demandsOf moves = [.start opening] ∧ ¬Orderly routine after := by
  cases outcome : opening.outcome with
  | ok second =>
      rcases exists_start_of_ok caller outcome with ⟨after, ran, -, -, both⟩
      refine ⟨_, after, ran, demandsOf_promptStart _ _, ?_⟩
      intro orderly
      have single := orderly.single
      rw [both, threads] at single
      simp [Thread.polls, List.countP_cons] at single
  | error cause =>
      rcases exists_start_of_error caller outcome with ⟨after, ran, idle, -, both⟩
      refine ⟨_, after, ran, demandsOf_promptStart _ _, ?_⟩
      intro orderly
      rcases orderly.settled _ idle (by simp) with ⟨shut, -⟩
      have works : Thread.looking station ∈ after.threads := by simp [both, threads]
      cases (shut _ works).polls

/-! ## All runs -/

/-- Whatever the order of the moves, the threads of a worker end in order if and only if a
start whose station is opened is followed by a stop. -/
theorem orderly_iff (routine : Routine σ) (calls : List (Demand σ)) :
    (∀ moves worker, new.run? routine moves = some worker → demandsOf moves <+: calls →
      Orderly routine worker) ↔ StopsBetween calls := by
  constructor
  · intro orderly
    induction calls using List.reverseRecOn with
    | nil => exact .nil
    | append_singleton calls next induction =>
        rw [stopsBetween_concat_iff]
        constructor
        · apply induction
          intro moves worker ran made
          exact orderly moves worker ran (made.trans (List.prefix_append _ _))
        · intro latest member opens
          rcases exists_settled routine calls with ⟨moves, worker, ran, demanded, settled⟩
          cases settled with
          | free _ _ closed =>
              rw [Option.mem_def.mp member] at closed
              simp [opens] at closed
          | working older station last caller threads =>
              cases next with
              | stop => rfl
              | start opening =>
                  rcases exists_disorder caller threads opening with
                    ⟨more, after, goesOn, started, disorder⟩
                  have made : demandsOf (moves ++ more) = calls ++ [.start opening] := by
                    rw [demandsOf_append, demanded, started]
                  refine absurd (orderly (moves ++ more) after ?_ ?_) disorder
                  · rw [run?_append, ran]
                    exact goesOn
                  · simp [made]
  · intro between moves worker ran made
    have begun : StopsBetween (demandsOf moves) := List.IsChain.prefix between made
    exact (situation_of_run? ran begun).orderly

def Caller.last? : Caller σ → Option Return
  | idle last => last
  | _ => none

private theorem Caller.eq_of_last? {caller : Caller σ} {last : Return}
    (reads : caller.last? = some last) :
    caller = .idle (some last) := by
  cases caller with
  | idle => rw [Caller.last?] at reads; rw [reads]
  | _ => cases reads

/-- A start that opens a station, and then one that fails. The first thread looks at the
flag after that. -/
def secondStart : List (Move Rehearsed) :=
  promptStart (Rehearsed.opening [] .standard) 0 ++
    promptStart ⟨.error (.link .closed), []⟩ 1 ++
    [.thread 0]

/-- After a start that failed the worker does not run, but its first thread polls and has
not closed its link. -/
theorem not_orderly_of_secondStart :
    ∃ worker, new.run? Rehearsed.routine secondStart = some worker ∧
      demandsOf secondStart =
        [.start (Rehearsed.opening [] .standard), .start ⟨.error (.link .closed), []⟩] ∧
      worker.caller = .idle (some .refused) ∧ worker.isRunning = false ∧
      worker.threads.map Thread.polls = [true, false] ∧
      (worker.threads.filterMap Thread.station?).map (·.rehearsal.script.closed) =
        [false] ∧
      ¬Orderly Rehearsed.routine worker := by
  have reads : ((new.run? Rehearsed.routine secondStart).map fun worker =>
      (worker.caller.last?, worker.isRunning, worker.threads.map Thread.polls,
        (worker.threads.filterMap Thread.station?).map (·.rehearsal.script.closed))) =
      some (some .refused, false, [true, false], [false]) := by
    decide +kernel
  rcases Option.map_eq_some_iff.mp reads with ⟨worker, ran, readOff⟩
  simp only [Prod.mk.injEq] at readOff
  rcases readOff with ⟨last, running, polling, closed⟩
  have caller := Caller.eq_of_last? last
  refine ⟨worker, ran, rfl, caller, running, polling, closed, ?_⟩
  intro orderly
  rcases orderly.settled _ caller (by simp) with ⟨shut, -⟩
  have idle : true ∉ worker.threads.map Thread.polls := by
    rw [List.mem_map]
    rintro ⟨thread, member, polls⟩
    rw [(shut thread member).polls] at polls
    cases polls
  simp [polling] at idle

end ClockDiscipline.Worker
