import ClockDiscipline.Host.Program.Shell.Builtin.Parameters
import ClockDiscipline.Host.Program.Shell.Part

/-!
A shell from its call to its end. It runs the script in its call, a file, or what it is
given to read; an interactive one goes on reading where a script fails.
-/

namespace ClockDiscipline.Shell

/-! ## The beginning -/

def firstVariables : List (String × Option String) :=
  [("IFS", some " \t\n"), ("MAIL", none), ("MAILPATH", none),
    ("PATH", some usualSearchPath), ("PS1", some "# "), ("PS2", some "> "),
    ("PS4", some "+ "), ("OPTIND", some "1")]

def firstDirectory (process : Process) : String :=
  let known := (process.environment.lookup "PWD").filter fun path =>
    path.startsWith "/" && process.files.areSame path "."
  known.getD (Program.placeText process.files.workingDirectory)

/-- The variables of a shell that begins: its own ones and those of the environment. Some
do not take their values from there. -/
def importVariables (process : Process) : List (String × Variable) :=
  let own : List (String × Variable) :=
    firstVariables.map fun (name, value) => (name, ⟨value, false, false, true⟩)
  let given := process.environment.filter fun (name, _) => isName name
  let imported := given.foldl
    (fun bindings (name, value) =>
      let isFixed := (bindings.lookup name).any (·.isFixed)
      Table.put name (⟨some value, true, false, isFixed⟩ : Variable) bindings)
    own
  let certain : List (String × String) :=
    [("IFS", " \t\n"), ("OPTIND", "1"), ("PPID", toString (process.ancestors.headD 0)),
      ("PWD", firstDirectory process)]
  certain.foldl
    (fun bindings (name, value) =>
      let before := bindings.lookup name
      let isExported := name = "PWD" || before.any (·.isExported)
      Table.put name ⟨some value, isExported, false, before.any (·.isFixed)⟩ bindings)
    imported

def State.initial (process : Process) : State where
  files := process.files
  streams := process.streams
  name := process.name
  line := 0
  commandName := none
  arguments := []
  optionPlace := .first
  bindings := importVariables process
  hidden := []
  functions := []
  aliases := []
  tracked := []
  documents := []
  nextDocument := 0
  options := []
  status := 0
  printedStatus := none
  savedStatus := none
  printed := ""
  loops := 0
  depth := 0
  isTracing := false
  traps := []
  caught := []
  ignored := process.ignored
  sent := []
  process := process.number
  number := process.number
  ancestors := process.ancestors
  lastProcess := process.lastProcess
  background := none
  jobs := []
  mask := process.mask
  limits := process.limits
  clock := process.clock
  directory := firstDirectory process

/-! ## Work -/

def setOptions (options : Options) : Run Unit := do
  let isInteractive := options.chosen.contains "interactive"
  let chosen := if isInteractive && !options.chosen.contains "monitor"
    then "monitor" :: options.chosen else options.chosen
  modify fun state => { state with
    options := chosen
    ignored := if isInteractive then guardedSignals ++ state.ignored else state.ignored }
  print options.listed
  let _ ← flush

def takeInput : Run String := do
  let state ← get
  match state.streams.readAll state.files 0 with
  | .ok (text, streams) =>
      set { state with streams }
      return text
  | .error _ => return ""

def runInput (evaluate : Evaluator) : Run Unit := do
  let _ ← runFile evaluate (substitute evaluate) true (← takeInput)

/-- Go on reading where an interactive shell has failed. What has been read already is
lost. -/
def orGoOn (evaluate : Evaluator) (work : Run Unit) : Run Unit := do
  match ← attempt work with
  | .ok () => return
  | .error .error =>
      if (← get).hasOption "interactive" then
        modify fun state => { state with loops := 0, commandName := none }
        runInput evaluate
      else throw .error
  | .error interruption => throw interruption

def runScript (evaluate : Evaluator) (script : String) : Run Unit := do
  let _ ← runText evaluate false script
  if (← get).hasOption "stdin" then runInput evaluate

def readScript (path : String) : Run String := do
  let { files, .. } ← get
  match files.read path with
  | .ok content => return content
  | .error (.errno cause) =>
      if cause = .isADirectory then return "" else fail (.cannotOpen path cause)
  | .error (.malformed _) => fail (.cannotOpen path .noSuchEntry)

def workOf (evaluate : Evaluator) (words : List String) : Run Unit := do
  let options := Options.ofWords true [] words
  setOptions options
  if let some fault := options.fault then fail fault
  let become (name : String) (arguments : List String) : Run Unit := do
    modify fun state => { state with name, arguments }
    Builtin.withoutTerminal []
  match options.hasScript, options.rest with
  | true, [] => fail (.misuse "-c requires an argument")
  | true, script :: rest =>
      match rest with
      | [] => Builtin.withoutTerminal []
      | name :: arguments => become name arguments
      orGoOn evaluate (runScript evaluate script)
  | false, rest =>
      match if (← get).hasOption "stdin" then none else rest.head? with
      | some path =>
          let content ← readScript path
          become path rest.tail
          orGoOn evaluate do let _ ← runFile evaluate (substitute evaluate) true content
      | none =>
          modify fun state => { state with
            arguments := rest, options := "stdin" :: state.options.filter (· ≠ "stdin") }
          Builtin.withoutTerminal []
          orGoOn evaluate (runInput evaluate)

def runShell (evaluate : Evaluator) (process : Process) : Finished :=
  let (status, state) :=
    (settle evaluate (workOf evaluate process.arguments)).run (.initial process)
  ⟨status, state.files, state.streams, state.lastProcess, state.clock, state.sent⟩

end ClockDiscipline.Shell
