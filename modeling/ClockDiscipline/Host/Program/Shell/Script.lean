import ClockDiscipline.Host.Program.Shell.Expansion
import ClockDiscipline.Host.Program.Shell.Reader.Command
import ClockDiscipline.Host.Program.Shell.Repetition

/-!
Scripts, which are read and run line by line, so that a line can change how the next one
is read. Scripts for signals are run between commands, and the one for the end when a
shell ends.
-/

namespace ClockDiscipline.Shell

/-- How commands are run. `isTested` says whether the status of the command decides about
something, and `isLast` whether the shell ends behind it. -/
abbrev Evaluator := (isTested isLast : Bool) → Command → Run Unit

/-! ## Lines -/

def Source.next (source : Source) (state : State) :
    Except LocatedFault (Reading.Line × Source) :=
  let { aliases, documents, nextDocument, .. } := state
  Reading.readLine.run { source with aliases, documents, nextDocument }

def accept : Except LocatedFault (Reading.Line × Source) → Run (Reading.Line × Source)
  | .ok (line, source) => do
      modify fun state => { state with
        documents := source.documents, nextDocument := source.nextDocument }
      return (line, source)
  | .error { line, fault } => do
      modify fun state => { state with line }
      fail (.syntactic fault)

def runLines (evaluate : Evaluator) (isTested : Bool) :
    (rounds : Nat) → (status : Nat) → Source → Run Nat
  | 0, status, _ => return status
  | rounds + 1, status, source => do
      let (line, source) ← accept (source.next (← get))
      match line with
      | .theEnd => return status
      | .empty => runLines evaluate isTested rounds status source
      | .command command =>
          evaluate isTested false command
          let { status, .. } ← get
          runLines evaluate isTested rounds status source

def runText (evaluate : Evaluator) (isTested : Bool) (text : String) : Run Nat :=
  runLines evaluate isTested maxRounds 0 (.ofText text 1 0)

/-! ## Files -/

def expandInside (substitute : Command → Run String) (text : String) : Run String := do
  match Reading.readInside.run (.ofText text 1 0) with
  | .error { fault, .. } =>
      warn fault.message
      return text
  | .ok (pieces, _) =>
      match ← attempt (expandDocument substitute ⟨true, pieces⟩) with
      | .ok expanded => return expanded
      | .error .error => return text
      | .error interruption => throw interruption

def prompt (substitute : Command → Run String) (name : String) : Run Unit := do
  let _ ← write 2 (← expandInside substitute (((← get).valueOf? name).getD ""))

def touchedLines (before : Source) (after : Except LocatedFault (Reading.Line × Source))
    (lines : List String) : List String × List String :=
  let count := match after with
    | .ok (_, source) =>
        if source.rest.isEmpty then lines.length else source.line - before.line
    | .error { line, .. } => line - before.line + 1
  (lines.take count, lines.drop count)

def maxEnds : Nat := 50

/-- Run a file line by line. One with `isTop` is not read by a script and may be a
dialogue. `ends` bounds how often its end is passed over, and `lines` are those that have
not been touched. -/
def runFileLines (evaluate : Evaluator) (substitute : Command → Run String)
    (isTop : Bool) :
    (rounds : Nat) → (ends : Nat) → (status : Nat) → (lines : List String) → Source →
      Run Nat
  | 0, _, status, _, _ => return status
  | rounds + 1, ends, status, lines, source => do
      let isDialogue := isTop && (← get).hasOption "interactive"
      if isDialogue then prompt substitute "PS1"
      let next := source.next (← get)
      let (touched, lines) := touchedLines source next lines
      if isDialogue then
        (touched.drop 1).forM fun _ => prompt substitute "PS2"
      if (← get).hasOption "verbose" then
        let _ ← write 2 (String.join touched)
      let (line, source) ← accept next
      match line with
      | .empty => runFileLines evaluate substitute isTop rounds ends status lines source
      | .command command =>
          match ← attempt (evaluate false false command) with
          | .error (.back _) => return (← get).status
          | .error interruption => throw interruption
          | .ok () =>
              let { status, .. } ← get
              runFileLines evaluate substitute isTop rounds ends status lines source
      | .theEnd =>
          match ends with
          | 0 => return status
          | ends + 1 =>
              if isTop && (← get).hasOption "ignoreeof" then
                let _ ← write 2 "\nUse \"exit\" to leave shell.\n"
                runFileLines evaluate substitute isTop rounds ends status lines source
              else
                if isDialogue then let _ ← write 2 "\n"
                return status

def runFile (evaluate : Evaluator) (substitute : Command → Run String) (isTop : Bool)
    (content : String) : Run Nat :=
  let lines := match (content.splitOn "\n").reverse with
    | last :: others => (others.map (· ++ "\n")).reverse ++ [last]
    | [] => []
  runFileLines evaluate substitute isTop maxRounds maxEnds 0 lines (.ofText content 1 0)

/-! ## Signals -/

/-- Run the script for a signal that was caught. The status stays as it is, unless the
script returns with one of its own. -/
def runTrap (evaluate : Evaluator) (status signal : Nat) : Run Unit := do
  let state ← get
  if state.caught.contains signal then
    set { state with caught := state.caught.filter (· ≠ signal) }
    if let some script := state.traps.lookup signal then
      match ← attempt (runText evaluate false script) with
      | .ok _ => setStatus status
      | .error (.back true) => throw (.back true)
      | .error interruption =>
          if interruption.isPassing then setStatus status
          throw interruption

def runTraps (evaluate : Evaluator) : Run Unit := do
  let { caught, savedStatus, status, .. } ← get
  unless caught.isEmpty do
    let status := savedStatus.getD status
    modify fun state => { state with savedStatus := some status }
    andThen ((List.range (Signal.last + 1)).forM (runTrap evaluate status))
      (modify fun state => { state with savedStatus })

/-! ## The end -/

def State.exit (state : State) : ExitStatus := .exited (state.status % 256)

/-- Carry out work to the end of a shell, with the script for the end behind it. The
status with which the shell was asked to end counts; that of the script for the end does
so only if something fails there. -/
def settle (evaluate : Evaluator) (work : Run Unit) : StateM State ExitStatus := do
  match ← work.run with
  | .error (.killed signal) => return .signalled signal
  | .error (.replaced status) => return status
  | result =>
      let _ ← flush.run
      let state ← get
      let asked := if result matches .error .exit then state.savedStatus else none
      let status := asked.getD state.status
      set { state with
        status, savedStatus := some status, loops := 0
        traps := state.traps.filter (·.1 ≠ 0) }
      match ← ((state.traps.lookup 0).forM fun script => do
          let _ ← runText evaluate false script).run with
      | .error (.killed signal) => return .signalled signal
      | .error (.replaced status) => return status
      | .error .error | .error .ended => return (← get).exit
      | _ =>
          modify fun state => { state with status := state.savedStatus.getD status }
          return (← get).exit

end ClockDiscipline.Shell
