import ClockDiscipline.Host.Program.Shell.Calling

/-!
Running commands. A command leaves its status in the state of the shell.

One step of evaluation is given how commands inside a command are run. How deep they may
lie is bounded, as the memory of a process is.
-/

namespace ClockDiscipline.Shell

def fitsAny (substitute : Command → Run String) (subject : String) : List Word → Run Bool
  | [] => return false
  | pattern :: rest => do
      if (← expandPattern substitute pattern).covers subject.toList then return true
      else fitsAny substitute subject rest

def chooseBranch (substitute : Command → Run String) (subject : String) :
    List (List Word × Option Command) → Run (Option Command)
  | [] => return none
  | (patterns, body) :: rest => do
      if ← fitsAny substitute subject patterns then return body
      else chooseBranch substitute subject rest

def setLine (line : Nat) : Run Unit := modify fun state => { state with line }

def orSucceed (evaluate : Command → Run Unit) : Option Command → Run Unit
  | some command => evaluate command
  | none => setStatus 0

/-- Run a command where commands inside it are run by `evaluate`. Tells whether its
failure can end the shell. -/
def perform (evaluate : Evaluator) (isTested isLast : Bool) (command : Command) :
    Run Bool := do
  let substitute := substitute evaluate
  match command with
  | .simple line assignments words redirections =>
      runSimple evaluate isTested isLast line assignments words redirections
      return true
  | .pipeline commands =>
      runPipeline evaluate isTested commands
      return true
  | .negation command =>
      evaluate true false command
      setStatus (if (← get).status = 0 then 1 else 0)
      return false
  | .sequence first second =>
      evaluate isTested false first
      evaluate isTested isLast second
      return false
  | .conjunction first second =>
      evaluate true false first
      if (← get).status = 0 then evaluate isTested isLast second
      return false
  | .alternative first second =>
      evaluate true false first
      if (← get).status ≠ 0 then evaluate isTested isLast second
      return false
  | .background line command redirections =>
      setLine line
      let directed ← direct substitute redirections
      inBackground evaluate do
        directed.forM (carryOut substitute)
        evaluate false true command
      return true
  | .subshell line body redirections =>
      setLine line
      let directed ← direct substitute redirections
      let work : Run Unit := do
        directed.forM (carryOut substitute)
        evaluate isTested true body
      if isLast && !(← get).hasTraps then work else beside evaluate work
      return true
  | .redirected line command redirections =>
      setLine line
      let directed ← direct substitute redirections
      match ← redirected substitute directed false (evaluate isTested false command) with
      | some () => return false
      | none =>
          setStatus 2
          return true
  | .conditional test body otherwise =>
      evaluate true false test
      if (← get).status = 0 then evaluate isTested isLast body
      else orSucceed (evaluate isTested isLast) otherwise
      return false
  | .loop isUntil test body =>
      inLoop <|
        repeatWhile isUntil (evaluate true false test) (evaluate isTested false body)
        maxRounds 0
      return false
  | .iteration line name words body =>
      setLine line
      let values := (← words.mapM (expandWord substitute)).flatten
      if values.isEmpty then setStatus 0
      inLoop (repeatWith name (evaluate isTested false body) values)
      return false
  | .choice line subject branches =>
      setLine line
      let subject ← expandText substitute subject
      orSucceed (evaluate isTested isLast) (← chooseBranch substitute subject branches)
      return false
  | .function name body =>
      modify fun state => { state with
        functions := Table.put name body state.functions
        tracked := Table.erase name state.tracked
        status := 0 }
      return false

def checkFailure (isTested : Bool) : Run Unit := do
  let state ← get
  if !isTested && state.status ≠ 0 && state.hasOption "errexit" then throw .ended

def step (evaluate : Evaluator) (isTested isLast : Bool) (command : Command) :
    Run Unit := do
  let isSimple := command matches .simple ..
  unless (← get).hasOption "noexec" do
    runTraps evaluate
    match ← attempt (perform evaluate isTested isLast command) with
    | .ok canEnd =>
        runTraps evaluate
        if canEnd then checkFailure isTested
    | .error interruption =>
        if interruption.isPassing then
          if isSimple then checkFailure isTested
          if isLast then throw .ended
        throw interruption
  if isLast then throw .ended

/-- Run commands that lie at most so deep. Deeper ones end the process. -/
def evaluateWithin : (depth : Nat) → Evaluator
  | 0, _, _, _ => throw (.killed Signal.memory)
  | depth + 1, isTested, isLast, command =>
      step (evaluateWithin depth) isTested isLast command

def maxNesting : Nat := 10000

def runToEnd (process : Process) (program : String) : Finished :=
  run (evaluateWithin maxNesting) process program

end ClockDiscipline.Shell
