import ClockDiscipline.Host.Program.Shell.Session

/-!
Programs that a shell starts, among which are shells and the program that changes the
environment of another one.
-/

namespace ClockDiscipline

namespace Shell

def runInstalled (evaluate : Evaluator) (process : Process) (program : String) :
    Finished :=
  if ["bash", "dash", "sh"].contains program then runShell evaluate process
  else (Program.runSimple? process program).getD (process.quit 0)

/-- Run what some words ask for: variables that are set or taken away, and a program with
its arguments. Without a program, the variables are printed. -/
def runChanged (evaluate : Evaluator) (process : Process) :
    (words : List String) → Finished
  | [] =>
      let lines := process.environment.map fun (name, value) => s!"{name}={value}\n"
      process.tell 0 (String.join lines) []
  | "-u" :: name :: rest =>
      runChanged evaluate
        { process with environment := Table.erase name process.environment } rest
  | word :: rest =>
      if word = "-i" ∨ word = "-" then
        runChanged evaluate { process with environment := [] } rest
      else if word = "--" then runChanged evaluate process rest
      else if word = "--help" ∨ word = "--version" then process.quit 0
      else
        match splitAtEquals? word, word.startsWith "-" with
        | some (name, value), false =>
            runChanged evaluate
              { process with environment := Table.put name value process.environment }
                rest
        | _, true => process.tell 125 "" [s!"invalid option -- {Program.quoted word}"]
        | none, false =>
            let { files, environment, .. } := process
            match Program.start files environment word rest with
            | .error cause =>
                process.tell (if cause = .noSuchEntry then 127 else 126) ""
                  [s!"{Program.quoted word}: {cause.description}"]
            | .ok program =>
                let called := { process with name := word, arguments := rest }
                if program = "env" then runChanged evaluate called rest
                else runInstalled evaluate called program

def run (evaluate : Evaluator) (process : Process) (program : String) : Finished :=
  if program = "env" then runChanged evaluate process process.arguments
  else runInstalled evaluate process program

/-! ## From a shell -/

def State.given (state : State) (name : String) (arguments : List String) : Process where
  files := state.files
  streams := state.streams
  environment := state.environment
  name
  arguments
  number := state.number
  ancestors := state.ancestors
  lastProcess := state.lastProcess
  mask := state.mask
  ignored := state.passedOver
  limits := state.limits
  clock := state.clock

def faultStatus (cause : Errno) : Nat :=
  if [Errno.noSuchEntry, .notADirectory, .nameTooLong].contains cause then 127 else 126

def refuseProgram (name : String) (cause : Errno) : Run Unit := do
  warn (Fault.cannotRun name cause).message
  setStatus (faultStatus cause)
  throw .ended

def startable (files : FileSystem) (path : String) (arguments : List String) :
    Except Errno String := do
  let found ← Program.at? files path
  Program.checkArguments arguments
  return found.name

def become (evaluate : Evaluator) (path name : String) (arguments : List String) :
    Run Unit := do
  let state ← get
  match startable state.files path arguments with
  | .error cause => refuseProgram name cause
  | .ok program =>
      let finished := run evaluate (state.given name arguments) program
      takeOver finished.files finished.streams finished.lastProcess finished.sent
      modify fun state => { state with clock := finished.clock }
      throw (.replaced finished.status)

end Shell

end ClockDiscipline
