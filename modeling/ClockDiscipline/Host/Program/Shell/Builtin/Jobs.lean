import ClockDiscipline.Host.Program.Shell.Variables

/-!
Jobs: what the shell has started in the background. Nothing there goes on beside the
shell; a job has been run to its end when it is started, but the shell notices the end
only when the time has come.
-/

namespace ClockDiscipline.Shell

/-! ## Time -/

/-- How long it takes to run a process that does next to nothing, in microseconds. -/
def leastTime : Nat := 1000

def noticeChild : Run Unit := do
  if ((← get).traps.lookup Signal.child).any (· ≠ "") then receive Signal.child

def noticeJobs : Run Unit := do
  let { clock, jobs, .. } ← get
  let isNew (job : Job) : Bool := !job.isOver && job.finish ≤ clock
  modify fun state => { state with
    jobs := jobs.map fun job => { job with isOver := job.isOver || job.finish ≤ clock } }
  if jobs.any isNew then noticeChild

def awaitJob (job : Job) : Run Unit := do
  modify fun state => { state with clock := max state.clock job.finish }
  noticeJobs

/-! ## Slots -/

/-- The first slot that no job needs. A job whose end has been told needs none. -/
def freeSlot (jobs : List Job) : (count : Nat) → (slot : Nat) → Nat
  | 0, slot => slot
  | count + 1, slot =>
      match jobs.find? (·.slot = slot) with
      | some job =>
          if job.isOver && job.isWaited then slot else freeSlot jobs count (slot + 1)
      | none => slot

def takeSlot : Run Nat := do
  let { jobs, .. } ← get
  let slot := freeSlot jobs jobs.length 1
  modify fun state => { state with jobs := jobs.filter (·.slot ≠ slot) }
  return slot

def tellEnd (status : ExitStatus) : Run Unit := do
  match status with
  | .signalled signal =>
      if signal ≠ Signal.interrupt ∧ signal ≠ Signal.pipe then
        let _ ← write 2 (Signal.description signal ++ "\n")
  | .exited _ => return

/-! ## Names -/

def findJob (needsControl : Bool) (name : Option String) : Run Job := do
  let { jobs, .. } ← get
  let found? : Except Fault (Option Job) := match name.map String.toList with
    | none | some ['%'] | some ['%', '+'] | some ['%', '%'] =>
        (jobs.head?).elim (.error (.misuse "No current job")) (.ok ∘ some)
    | some ['%', '-'] =>
        (jobs[1]?).elim (.error (.misuse "No previous job")) (.ok ∘ some)
    | some ('%' :: rest) =>
        match Arguments.digits? (String.ofList rest), rest with
        | some slot, _ => .ok (jobs.find? (·.slot = slot))
        -- Jobs have no texts in which a word could be looked for.
        | none, ['?'] =>
            match jobs with
            | _ :: _ :: _ => .error (.misuse ((name.getD "") ++ ": ambiguous"))
            | jobs => .ok jobs.head?
        | none, _ => .ok none
    | some _ => .ok none
  match ← orFail found? with
  | none => fail (.noSuchJob (name.getD ""))
  | some job =>
      if needsControl then
        fail (.misuse ("job " ++ name.getD "(null)" ++ " not created under job control"))
      else return job

namespace Builtin

/-! ## Commands -/

/-- The line that tells about a job: the latest one has a plus sign, the one before a
minus sign. -/
def jobLine (jobs : List Job) (showsProcess : Bool) (job : Job) : String :=
  let mark := if (jobs.head?).any (·.slot = job.slot) then "+"
    else if (jobs[1]?).any (·.slot = job.slot) then "-" else " "
  let process := if showsProcess then s!"{job.process} " else ""
  let state := if !job.isOver then "Running"
    else
      match job.status with
      | .exited 0 => "Done"
      | .exited code => s!"Done({code})"
      | .signalled signal => Signal.description signal
  let text := s!"[{job.slot}] {mark} {process}{state}"
  text.pushn ' ' (max 1 (33 - text.length)) ++ "\n"

def jobs (arguments : List String) : Run Nat := do
  let (chosen, words) ← orFail (Arguments.takeOptions "lp" arguments)
  noticeJobs
  let named ← words.mapM fun word => findJob false (some word)
  let { jobs := all, .. } ← get
  let listed := if words.isEmpty then all else named
  let letter := chosen.getLast?.map (·.letter)
  for job in listed do
    print
      (if letter = some 'p' then s!"{job.process}\n"
        else jobLine all (letter = some 'l') job)
  if letter ≠ some 'p' then
    modify fun state => { state with
      jobs := state.jobs.filter fun job =>
        !(job.isOver && listed.any (·.slot = job.slot)) }
  return 0

def resume (arguments : List String) : Run Nat := do
  let (_, words) ← orFail (Arguments.takeOptions "" arguments)
  let _ ← findJob true words.head?
  return 0

def waitedJob? (word : String) : Run (Option Job) := do
  if word.startsWith "%" then return some (← findJob false (some word))
  else
    let process ← orFail (Arguments.count word)
    return (← get).jobs.find? (·.process = process)

def noteWaited (slots : List Nat) : Run Unit :=
  modify fun state => { state with
    jobs := state.jobs.map fun job =>
      { job with isWaited := job.isWaited || slots.contains job.slot } }

def wait (arguments : List String) : Run Nat := do
  let (_, words) ← orFail (Arguments.takeOptions "" arguments)
  if words.isEmpty then
    let { jobs, .. } ← get
    jobs.forM awaitJob
    noteWaited (jobs.map (·.slot))
    return 0
  let mut status := 127
  for word in words do
    if let some job := ← waitedJob? word then
      awaitJob job
      unless job.isOver do tellEnd job.status
      noteWaited [job.slot]
      status := job.status.code
  return status

end Builtin

end ClockDiscipline.Shell
