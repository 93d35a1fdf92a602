import ClockDiscipline.Host.Program.Shell.Builtin.Commands
import ClockDiscipline.Host.Program.Shell.Builtin.Jobs
import ClockDiscipline.Host.Program.Shell.Script

/-!
Parts of the shell that run as processes of their own. Such a part begins as the shell is,
and leaves nothing behind but the files and what it has written. Parts run one after
another: a stage of a pipeline has ended when the next one begins, and a part in the
background when the shell goes on.
-/

namespace ClockDiscipline.Shell

structure Ended where
  process : Nat
  status : ExitStatus
  clock : Nat
  ignored : List Nat
  deriving DecidableEq, Repr

def takeOver (files : FileSystem) (streams : Streams) (lastProcess : Nat)
    (sent : List (Nat × Nat)) : Run Unit :=
  modify fun state => { state with
    files := { state.files with root := files.root }
    streams := { state.streams with
      openings := streams.openings.take state.streams.openings.size }
    lastProcess
    sent := state.sent ++ sent }

def meetSignals : Run Unit := do
  let { number, sent, .. } ← get
  modify fun state => { state with sent := state.sent.filter (·.1 ≠ number) }
  (sent.filter (·.1 = number)).forM fun (_, signal) => receive signal

def guardedSignals : List Nat := [Signal.quit, Signal.terminate]

def State.part (state : State) : State :=
  let number := state.lastProcess + 1
  let isGuarded := state.isWhole && state.hasOption "interactive"
  { state with
    ignored := if isGuarded then state.ignored.filter (!guardedSignals.contains ·)
      else state.ignored
    number
    lastProcess := number
    ancestors := state.number :: state.ancestors
    traps := state.traps.filter (·.2 = "")
    caught := []
    sent := []
    jobs := [] }

def State.passedOver (state : State) : List Nat :=
  state.ignored ++ (state.traps.filter (·.2 = "")).map Prod.fst

/-- Carry out work in a part of the shell, which `prepare` changes first. -/
def inPart (evaluate : Evaluator) (prepare : State → State) (work : Run Unit) :
    Run Ended := do
  let outer ← get
  let (status, inner) := (settle evaluate work).run (prepare outer.part)
  takeOver inner.files inner.streams inner.lastProcess inner.sent
  return ⟨outer.lastProcess + 1, status, inner.clock + leastTime, inner.passedOver⟩

def await (ended : Ended) : Run Unit := do
  modify fun state => { state with
    status := ended.status.code, clock := max state.clock ended.clock }
  noticeChild
  noticeJobs
  tellEnd ended.status

def beside (evaluate : Evaluator) (work : Run Unit) : Run Unit := do
  let _ ← takeSlot
  await (← inPart evaluate id work)
  meetSignals

def inBackground (evaluate : Evaluator) (work : Run Unit) : Run Unit := do
  let slot ← takeSlot
  let detach (state : State) : State :=
    { state with
      ignored := Signal.interrupt :: Signal.quit :: state.ignored
      streams := state.streams.add 0 (.ofChannel .read (.device .null)) }
  let { process, status, clock, ignored } ← inPart evaluate detach work
  modify fun state => { state with
    status := 0
    background := some process
    jobs := ⟨slot, process, status, clock, ignored, false, false⟩ :: state.jobs }
  meetSignals

/-! ## Pipes -/

def pipeSize : Nat := 0x40000

def makePipe (room : Option Nat) : Run Nat := do
  let { streams, .. } ← get
  modify fun state => { state with
    streams := { state.streams with
      openings := state.streams.openings.push (.ofChannel .update (.pipe "" room)) } }
  return streams.openings.size

def State.lead (descriptor : Nat) (opening : Option Nat) (state : State) : State :=
  match opening with
  | some opening => { state with streams := state.streams.connect descriptor opening }
  | none => state

def substitute (evaluate : Evaluator) (command : Command) : Run String := do
  let _ ← takeSlot
  let pipe ← makePipe none
  let { status, .. } ← get
  let ended ← inPart evaluate (State.lead 1 (some pipe)) (evaluate false true command)
  let channel? := ((← get).streams.openings[pipe]?).map Opening.channel
  modify fun state => { state with
    streams := { state.streams with openings := state.streams.openings.take pipe } }
  await ended
  meetSignals
  modify fun state => { state with status, printedStatus := some ended.status.code }
  match channel? with
  | some (.pipe text _) => return text
  | _ => return ""

/-- A program that a stage of a pipeline names is looked for by the shell itself. -/
def lookAhead (command : Command) : Run Unit := do
  if let .simple _ _ (word :: _) _ := command then
    if let some name := (plainText? word).filter isName then
      let _ ← findCommand true none name

/-- Run stages of a pipeline, each of which reads what the one before has written. They
all begin at the same time. -/
def runStages (evaluate : Evaluator) (isTested : Bool) (start : Nat)
    (input : Option Nat) :
    List Command → Run Unit
  | [] => return
  | command :: rest => do
      lookAhead command
      let output ← if rest.isEmpty then pure none else some <$> makePipe (some pipeSize)
      let prepare (state : State) : State :=
        { (state.lead 0 input).lead 1 output with clock := start }
      await (← inPart evaluate prepare (evaluate isTested true command))
      runStages evaluate isTested start output rest

def runPipeline (evaluate : Evaluator) (isTested : Bool) (commands : List Command) :
    Run Unit := do
  let _ ← takeSlot
  let { clock, streams, .. } ← get
  runStages evaluate isTested clock none commands
  meetSignals
  modify fun state =>
    let openings := state.streams.openings.take streams.openings.size
    { state with streams := { state.streams with openings } }

end ClockDiscipline.Shell
