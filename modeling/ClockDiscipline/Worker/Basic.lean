import ClockDiscipline.Station.Opening

/-!
The worker: it lets a station work in a thread of its own. The caller and the threads
share a status and a flag that asks for a stop. Each move reads or writes one of the two,
or does work that no other thread sees, so a run is a list of moves in any order that the
moves allow.
-/

namespace ClockDiscipline

/-! ## Threads -/

/-- How opening in a thread turns out, and what the journal says meanwhile. -/
structure Worker.Opening (σ : Type) where
  outcome : Except Station.OpenFailure σ
  entries : List Entry

structure Worker.Routine (σ : Type) where
  poll : σ → Except Overflow σ × List Entry
  shutDown : σ → σ × List Entry

/-- Where a thread stands. The status does not tell yet that it is `refused`, `opened` or
`closed`, and one that is `looking` is about to look at the flag. -/
inductive Worker.Thread (σ : Type) where
  | opening (opening : Worker.Opening σ)
  | refused
  | opened (station : σ)
  | looking (station : σ)
  | polling (station : σ)
  | closing (station : σ)
  | closed (station : σ)
  | ended (station : Option σ)
  | broken (station : σ)

namespace Worker.Thread

variable {σ : Type}

def station? : Thread σ → Option σ
  | opening _ => none
  | refused => none
  | opened station => some station
  | looking station => some station
  | polling station => some station
  | closing station => some station
  | closed station => some station
  | ended station => station
  | broken station => some station

def polls : Thread σ → Bool
  | looking _ => true
  | polling _ => true
  | _ => false

def isOver : Thread σ → Bool
  | ended _ => true
  | broken _ => true
  | _ => false

end Worker.Thread

/-! ## Status and calls -/

namespace Worker

inductive Status where
  | stopped
  | starting
  | running
  | failed
  deriving DecidableEq, Repr

inductive Return where
  | started
  | refused
  | denied
  | stopped
  deriving DecidableEq, Repr

def refusalMessage : String := "GPS I/O thread failed to initialize"

/-! ## What the journal says -/

def startEntry : Entry := .info .station "Starting GPS I/O thread"

def runningEntry : Entry := .info .station "GPS I/O thread running"

def refusalEntry (cause : Station.OpenFailure) : Entry :=
  .error .station s!"GPS I/O initialization failed: {cause.message}"

/-! ## The caller -/

/-- Where the caller stands: about to set the status (`announcing`), to lower or raise the
flag, to make a thread (`spawning`), or waiting. -/
inductive Caller (σ : Type) where
  | idle (last : Option Return)
  | announcing (opening : Opening σ)
  | lowering (opening : Opening σ)
  | spawning (opening : Opening σ)
  | awaitingStart
  | joiningRefused
  | raising
  | awaitingStop
  | joiningStopped

def Caller.isIdle {σ : Type} : Caller σ → Bool
  | idle _ => true
  | _ => false

end Worker

structure Worker (σ : Type) where
  status : Worker.Status
  stopRequested : Bool
  threads : List (Worker.Thread σ)
  /-- The thread that the next stop waits for. -/
  handle : Option Nat
  caller : Worker.Caller σ
  journal : Array Entry

namespace Worker

variable {σ : Type}

def new : Worker σ := ⟨.stopped, false, [], none, .idle none, #[]⟩

def isRunning (worker : Worker σ) : Bool := worker.status = .running

def say (worker : Worker σ) (entries : List Entry) : Worker σ :=
  { worker with journal := entries.foldl Array.push worker.journal }

/-! ## Moves -/

inductive Move (σ : Type) where
  | start (opening : Opening σ)
  | stop
  | proceed
  /-- The system makes no thread for a start. -/
  | deny
  | thread (index : Nat)

def begin? (worker : Worker σ) (call : Worker σ) : Option (Worker σ) :=
  if worker.caller.isIdle then some call else none

def start? (worker : Worker σ) (opening : Opening σ) : Option (Worker σ) :=
  worker.begin? <| { worker with caller := .announcing opening }.say
    [startEntry]

/-- A stop has nothing to do where no thread is waited for. -/
def stop? (worker : Worker σ) : Option (Worker σ) :=
  worker.begin? <|
    match worker.handle with
    | none => { worker with caller := .idle (some .stopped) }
    | some _ =>
        { worker with caller := .raising }.say [.info .station "Stopping GPS I/O thread"]

/-- A call comes back once the thread that it waits for is over. -/
def join? (worker : Worker σ) (last : Return) : Option (Worker σ) :=
  let returned := { worker with handle := none, caller := .idle (some last) }
  match worker.handle.bind (worker.threads[·]?) with
  | none => some returned
  | some (.broken _) => some (returned.say [.error .station "GPS I/O thread panicked"])
  | some thread => if thread.isOver then some returned else none

def proceed? (worker : Worker σ) : Option (Worker σ) :=
  match worker.caller with
  | .idle _ => none
  | .announcing opening =>
      some { worker with status := .starting, caller := .lowering opening }
  | .lowering opening =>
      some { worker with stopRequested := false, caller := .spawning opening }
  | .spawning opening =>
      some { worker with
        threads := worker.threads ++ [.opening opening]
        handle := some worker.threads.length
        caller := .awaitingStart }
  | .awaitingStart =>
      match worker.status with
      | .running => some { worker with caller := .idle (some .started) }
      | .failed => some { worker with caller := .joiningRefused }
      | _ => none
  | .joiningRefused => worker.join? .refused
  | .raising => some { worker with stopRequested := true, caller := .awaitingStop }
  | .awaitingStop =>
      if worker.isRunning then none else some { worker with caller := .joiningStopped }
  | .joiningStopped => worker.join? .stopped

def deny? (worker : Worker σ) : Option (Worker σ) :=
  match worker.caller with
  | .spawning _ => some { worker with caller := .idle (some .denied) }
  | _ => none

/-- Where a thread stands after its next step; what the step changes otherwise. -/
def advance (routine : Routine σ) (worker : Worker σ) :
    Thread σ → Option (Thread σ × Worker σ)
  | .opening opening =>
      match opening.outcome with
      | .ok station => some (.opened station, worker.say opening.entries)
      | .error cause =>
          some (.refused, worker.say (opening.entries ++ [refusalEntry cause]))
  | .refused => some (.ended none, { worker with status := .failed })
  | .opened station =>
      some (.looking station, { worker with status := .running }.say [runningEntry])
  | .looking station =>
      some (if worker.stopRequested then .closing station else .polling station, worker)
  | .polling station =>
      match routine.poll station with
      | (.ok polled, entries) => some (.looking polled, worker.say entries)
      | (.error _, entries) => some (.broken station, worker.say entries)
  | .closing station =>
      let (station, entries) := routine.shutDown station
      some (.closed station, worker.say entries)
  | .closed station =>
      some (.ended (some station),
        { worker with status := .stopped }.say
        [.info .station "GPS I/O thread terminated"])
  | .ended _ => none
  | .broken _ => none

def advance? (routine : Routine σ) (worker : Worker σ) (index : Nat) :
    Option (Worker σ) := do
  let thread ← worker.threads[index]?
  let (thread, worker) ← worker.advance routine thread
  return { worker with threads := worker.threads.set index thread }

def step? (routine : Routine σ) (worker : Worker σ) : Move σ → Option (Worker σ)
  | .start opening => worker.start? opening
  | .stop => worker.stop?
  | .proceed => worker.proceed?
  | .deny => worker.deny?
  | .thread index => worker.advance? routine index

def run? (routine : Routine σ) (worker : Worker σ) (moves : List (Move σ)) :
    Option (Worker σ) :=
  moves.foldlM (step? routine) worker

/-! ## A fair schedule -/

def attempt (routine : Routine σ) (worker : Worker σ) (move : Move σ) : Worker σ :=
  (worker.step? routine move).getD worker

def round (routine : Routine σ) (worker : Worker σ) : Worker σ :=
  (List.range worker.threads.length).foldl
    (fun worker index => worker.attempt routine (.thread index))
    (worker.attempt routine .proceed)

def rounds (routine : Routine σ) : (count : Nat) → Worker σ → Worker σ
  | 0, worker => worker
  | count + 1, worker => rounds routine count (worker.round routine)

/-- More rounds than a call needs when every thread goes on. -/
def roundsOfCall : Nat := 16

def settle (routine : Routine σ) : (count : Nat) → Worker σ → Worker σ
  | 0, worker => worker
  | count + 1, worker =>
      if worker.caller.isIdle then worker else settle routine count (worker.round routine)

def call (routine : Routine σ) (worker : Worker σ) (move : Move σ) : Worker σ :=
  settle routine roundsOfCall (worker.attempt routine move)

end Worker

end ClockDiscipline
