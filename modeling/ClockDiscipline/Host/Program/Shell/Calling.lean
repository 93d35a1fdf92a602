import ClockDiscipline.Host.Program.Shell.Builtin
import ClockDiscipline.Host.Program.Shell.Redirecting
import ClockDiscipline.Host.Program.Shell.Starting

/-!
Simple commands: assignments, words and redirections. The words are expanded first, then
files are opened, and values are assigned last. What the first word names is then called.
-/

namespace ClockDiscipline.Shell

/-! ## What is called -/

structure Call where
  words : List String
  isPlain : Bool
  isUsual : Bool
  deriving DecidableEq, Repr

namespace Call

def isSpecial (call : Call) : Bool :=
  !call.isPlain && call.words.head?.any Builtin.isSpecial

def isExec (call : Call) : Bool := call.words.head? = some "exec"

def hasName (call : Call) : Bool := !call.words.isEmpty

/-- What words behind `command` call; nothing where more words are needed. `last` are the
words that call it itself. -/
def behindCommand? (isUsual : Bool) (last : List String) : List String → Option Call
  | "--" :: name :: rest =>
      if name = "command" then behindCommand? isUsual (name :: rest) rest
      else some ⟨name :: rest, true, isUsual⟩
  | word :: rest =>
      match word.toList with
      | ['-', '-'] => none
      | '-' :: letter :: letters =>
          if (letter :: letters).all (· = 'p') then behindCommand? true last rest
          else some ⟨last, false, false⟩
      | _ =>
          if word = "command" then behindCommand? isUsual (word :: rest) rest
          else some ⟨word :: rest, true, isUsual⟩
  | [] => none

def ofWords? (hasCommand : Bool) : List String → Option Call
  | [] => none
  | name :: rest =>
      if name = "command" ∧ hasCommand then behindCommand? false (name :: rest) rest
      else some ⟨name :: rest, false, false⟩

example : ofWords? true ["command", "-p", "--", "ls"] = some ⟨["ls"], true, true⟩ ∧
    ofWords? true ["command", "-v", "ls"] =
      some ⟨["command", "-v", "ls"], false, false⟩ := by
  decide +kernel

end Call

structure Gathered where
  expanded : List String
  call : Call
  left : List Word

def gather (substitute : Command → Run String) (hasCommand : Bool)
    (expanded : List String) :
    List Word → Run Gathered
  | [] =>
      return ⟨expanded,
        (Call.ofWords? hasCommand expanded).getD ⟨expanded, false, false⟩, []⟩
  | word :: rest => do
      match Call.ofWords? hasCommand expanded with
      | some call => return ⟨expanded, call, word :: rest⟩
      | none =>
          gather substitute hasCommand (expanded ++ (← expandWord substitute word)) rest

def Gathered.complete (substitute : Command → Run String)
    (functions : List (String × Command))
    (gathered : Gathered) : Run Gathered := do
  let { expanded, call, left } := gathered
  let isAssigning := call.words.head?.any fun name =>
    Builtin.assigningNames.contains name &&
      (call.isPlain || (functions.lookup name).isNone)
  let expand := if isAssigning then expandAssigning else expandWord
  let more := (← left.mapM (expand substitute)).flatten
  return ⟨expanded ++ more, { call with words := call.words ++ more }, []⟩

/-! ## Commands of the shell's own -/

def runArguments (evaluate : Evaluator) (isTested : Bool) (arguments : List String) :
    Run Nat :=
  if arguments.isEmpty then return 0
  else runText evaluate isTested (" ".intercalate arguments)

def findScript (name : String) : Run String := do
  if name.toList.contains '/' then return name
  let state ← get
  let isScript (path : String) : Bool :=
    match state.files.lookup path with
    | .ok node => (node matches .file _) || (node matches .program)
    | .error _ => false
  match (searchedPaths state.searchPath name).find? isScript with
  | some path => return path
  | none => fail (.notFound name)

def includeScript (evaluate : Evaluator) (arguments : List String) : Run Nat := do
  match ← orFail (Arguments.takeOptions "" arguments) with
  | (_, []) => return 0
  | (_, name :: _) =>
      let path ← findScript name
      let content ← readScript path
      modify fun state => { state with commandName := some path }
      runFile evaluate (substitute evaluate) false content

def replace (evaluate : Evaluator) (arguments : List String) : Run Nat := do
  match ← orFail (Arguments.takeOptions "" arguments) with
  | (_, []) => return 0
  | (_, name :: rest) =>
      modify fun state =>
        { state with options := state.options.filter (· ≠ "interactive") }
      let state ← get
      let path? := if name.toList.contains '/' then .ok name
        else searchProgram state.files .noSuchEntry (searchedPaths state.searchPath name)
      match path? with
      | .ok path => become evaluate path name rest
      | .error cause => refuseProgram name cause
      return 0

def builtin? (evaluate : Evaluator) (isTested : Bool) (name : String) :
    Option (List String → Run Nat) :=
  match name with
  | "." => some (includeScript evaluate)
  | "eval" => some (runArguments evaluate isTested)
  | "exec" => some (replace evaluate)
  | _ => Builtin.find? name

def finish (name : String) : Run Nat := do
  if ← flush then return 0
  warn (name ++ ": I/O error")
  return 1

/-- Run a command of the shell's own. An error in it does not go further, unless it is a
special one. -/
def runBuiltin (isSpecial : Bool) (name : String) (work : Run Nat) : Run Unit := do
  let { commandName, .. } ← getModify fun state => { state with commandName := some name }
  let restore : Run Unit := modify fun state => { state with commandName, printed := "" }
  match ← attempt work with
  | .ok status =>
      setStatus (status ||| (← finish name))
      restore
  | .error .error =>
      restore
      if isSpecial then throw .error
  | .error interruption =>
      if interruption.isPassing then let _ ← finish name
      restore
      throw interruption

/-! ## Functions -/

def maxDepth : Nat := 1000

def runFunction (evaluate : Evaluator) (isTested : Bool) (arguments : List String)
    (body : Command) : Run Unit := do
  let outer ← get
  set { outer with depth := outer.depth + 1 }
  if maxDepth ≤ outer.depth then
    fail (.misuse s!"Maximum function recursion depth ({maxDepth}) reached")
  modify fun state => { state with arguments, optionPlace := .first, loops := 0 }
  andAlways
    (do
      match ← attempt (evaluate isTested false body) with
      | .ok () | .error (.back _) => return
      | .error interruption => throw interruption)
    (modify fun state => { state with
      arguments := outer.arguments
      optionPlace := outer.optionPlace
      loops := outer.loops
      depth := state.depth - 1 })

/-! ## Programs -/

/-- Run a program. One that is run last takes the place of the shell if no trap is
left. -/
def runProgram (evaluate : Evaluator) (isLast : Bool) (path name : String)
    (arguments : List String) : Run Unit := do
  if isLast && !(← get).hasTraps then become evaluate path name arguments
  else beside evaluate (become evaluate path name arguments)

/-! ## Calling -/

def Call.run (evaluate : Evaluator) (isTested isLast : Bool) (call : Call) :
    Run Unit := do
  match call.words with
  | [] => setStatus ((← get).printedStatus.getD 0)
  | name :: arguments =>
      let { functions, .. } ← get
      let function? := if call.isPlain then none else functions.lookup name
      match function?, builtin? evaluate isTested name with
      | some body, _ => runFunction evaluate isTested arguments body
      | none, some builtin => runBuiltin call.isSpecial name (builtin arguments)
      | none, none =>
          let elsewhere := if call.isUsual then some usualSearchPath else none
          match ← findCommand (!call.isPlain) elsewhere name with
          | .program path => runProgram evaluate isLast path name arguments
          | .missing cause =>
              warn (Fault.cannotRun name cause).message
              setStatus 127
          | .function _ | .builtin => return

def assignAll (substitute : Command → Run String) (isLocal isExported : Bool) :
    List (String × Word) → Run (List String)
  | [] => return []
  | (name, word) :: rest => do
      let value ← expandValue substitute word
      if isLocal then localize name (some value) true
      else
        bind name (some value) fun entry =>
          { entry with isExported := entry.isExported || isExported }
      return (name ++ "=" ++ value) :: (← assignAll substitute isLocal isExported rest)

def trace (substitute : Command → Run String) (before : Streams) (words : List String) :
    Run Unit := do
  let state ← get
  if state.hasOption "xtrace" && !state.isTracing then
    set { state with isTracing := true }
    let mark ← expandInside substitute ((state.valueOf? "PS4").getD "")
    let { streams, .. } ← get
    modify fun state => { state with
      isTracing := false, streams := { streams with descriptors := before.descriptors } }
    let _ ← write 2 (mark ++ " ".intercalate words ++ "\n")
    modify fun state => { state with
      streams := { state.streams with descriptors := streams.descriptors } }

def runSimple (evaluate : Evaluator) (isTested isLast : Bool) (line : Nat)
    (assignments : List (String × Word)) (words : List Word)
    (redirections : List Redirection) : Run Unit := do
  let { functions, .. } ← getModify fun state =>
    { state with line, printedStatus := none }
  let substitute := substitute evaluate
  let gathered ← gather substitute (functions.lookup "command").isNone [] words
  let { expanded, call, .. } ← gathered.complete substitute functions
  let isLocal := call.hasName && !call.isSpecial
  let work : Run Unit := do
    let before := (← get).streams
    let directed ← direct substitute redirections
    let isRun ← redirected substitute directed call.isExec do
      let isExported := call.isExec && 1 < call.words.length
      let assigned ← assignAll substitute isLocal isExported assignments
      trace substitute before (assigned ++ expanded)
      call.run evaluate isTested isLast
    if isRun.isNone then
      setStatus 2
      if call.isSpecial then throw .error
  if isLocal then givingBack work else work
  noticeJobs

end ClockDiscipline.Shell
