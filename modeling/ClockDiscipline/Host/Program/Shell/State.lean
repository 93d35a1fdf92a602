import ClockDiscipline.Host.Program.Basic
import ClockDiscipline.Host.Program.Shell.Fault
import ClockDiscipline.Host.Program.Shell.Options

/-!
A shell at work: what it remembers, what interrupts its work, and how it complains.
-/

namespace ClockDiscipline.Shell

structure Variable where
  value : Option String
  isExported : Bool
  isReadOnly : Bool
  isFixed : Bool
  deriving DecidableEq, Repr

/-- What is given back when the work that changed it is over. -/
inductive Hidden where
  | variable (name : String) (before : Option Variable)
  | options (chosen : List String)
  deriving DecidableEq, Repr

structure Tracked where
  path : String
  isStale : Bool
  deriving DecidableEq, Repr

structure Job where
  slot : Nat
  process : Nat
  status : ExitStatus
  finish : Nat
  ignored : List Nat
  isOver : Bool
  isWaited : Bool
  deriving DecidableEq, Repr

structure OptionPlace where
  index : Nat
  offset : Option Nat
  deriving DecidableEq, Repr

def OptionPlace.first : OptionPlace := ⟨1, none⟩

structure State where
  files : FileSystem
  streams : Streams
  name : String
  line : Nat
  commandName : Option String
  arguments : List String
  optionPlace : OptionPlace
  bindings : List (String × Variable)
  /-- What has been hidden, for each piece of work that gives it back. -/
  hidden : List (List Hidden)
  functions : List (String × Command)
  aliases : List (String × String)
  tracked : List (String × Tracked)
  documents : List (Nat × Document)
  nextDocument : Nat
  options : List String
  status : Nat
  printedStatus : Option Nat
  savedStatus : Option Nat
  printed : String
  loops : Nat
  depth : Nat
  isTracing : Bool
  traps : List (Nat × String)
  caught : List Nat
  ignored : List Nat
  sent : List (Nat × Nat)
  /-- The number by which scripts know the shell. A part of it has the same. -/
  process : Nat
  number : Nat
  ancestors : List Nat
  lastProcess : Nat
  background : Option Nat
  jobs : List Job
  mask : Nat
  limits : List (Char × Limit)
  clock : Nat
  directory : String

inductive Interruption where
  | leave (loops : Nat)
  | again (loops : Nat)
  | back (hasStatus : Bool)
  | error
  | exit
  | ended
  | replaced (status : ExitStatus)
  | killed (signal : Nat)
  deriving DecidableEq, Repr

abbrev Run := ExceptT Interruption (StateM State)

namespace State

def hasOption (state : State) (name : String) : Bool := state.options.contains name

def hasTraps (state : State) : Bool := state.traps.any (·.2 ≠ "")

def isWhole (state : State) : Bool := state.number = state.process

end State

def setStatus (status : Nat) : Run Unit := modify fun state => { state with status }

def andAlways {α : Type} (first : Run α) (last : Run Unit) : Run α :=
  ExceptT.mk do
    let result ← first.run
    match ← last.run with
    | .ok () => return result
    | .error interruption => return .error interruption

def attempt {α : Type} (work : Run α) : Run (Except Interruption α) :=
  ExceptT.mk do return .ok (← work.run)

def Interruption.isPassing : Interruption → Bool
  | leave _ | again _ | back _ => true
  | error | exit | ended | replaced _ | killed _ => false

/-- Do something and then something else, unless the shell does not go on. -/
def andThen {α : Type} (first : Run α) (last : Run Unit) : Run α :=
  ExceptT.mk do
    let result ← first.run
    let goesOn := match result with
      | .ok _ => true
      | .error interruption => interruption.isPassing
    if goesOn then
      match ← last.run with
      | .ok () => return result
      | .error interruption => return .error interruption
    else return result

/-! ## Signals -/

def receive (signal : Nat) : Run Unit := do
  let state ← get
  if signal = Signal.kill then throw (.killed signal)
  else if signal = 0 || signal = Signal.stop || state.ignored.contains signal then return
  else
    match state.traps.lookup signal with
    | some "" => return
    | some _ =>
        set { state with caught := signal :: state.caught.filter (· ≠ signal) }
    | none => if Signal.isDeadly signal then throw (.killed signal)

/-! ## Writing -/

def write (descriptor : Nat) (text : String) : Run Bool := do
  let state ← get
  if text = "" then return true
  match state.streams.write state.files descriptor text with
  | .ok (streams, files) =>
      set { state with streams, files }
      return true
  | .error cause =>
      if cause = .brokenPipe then receive Signal.pipe
      return false

def print (text : String) : Run Unit :=
  modify fun state => { state with printed := state.printed ++ text }

def flush : Run Bool := do
  let text := (← getModify fun state => { state with printed := "" }).printed
  write 1 text

def warn (text : String) : Run Unit := do
  let { name, line, commandName, .. } ← get
  let context := match commandName with
    | some command => command ++ ": "
    | none => ""
  let _ ← write 2 s!"{name}: {line}: {context}{text}\n"

def fail {α : Type} (fault : Fault) : Run α := do
  warn fault.message
  let _ ← flush
  setStatus 2
  throw .error

end ClockDiscipline.Shell
