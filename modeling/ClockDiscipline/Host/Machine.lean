import ClockDiscipline.Host.FileSystem
import ClockDiscipline.Host.Interface
import ClockDiscipline.KernelClock
import ClockDiscipline.Terminal

/-!
A small host in memory: a file system, programs, the serial line and the kernel's side of
the clock. What its programs do is left open.
-/

namespace ClockDiscipline

structure Ending where
  status : ExitStatus
  root : Node
  output : String
  errors : String

/-- What running a program by its name with arguments amounts to. -/
abbrev Programs := FileSystem → String → List String → Except HostError Ending

structure Machine where
  files : FileSystem
  programs : Programs
  kernel : ClockKernel
  clockCalls : List ClockCall
  line : Terminal
  output : String
  errors : String
  /-- What the journal said, if it goes nowhere else. -/
  heard : Array Entry

namespace Machine

/-- A machine with an empty file system and without programs. -/
def bare : Machine where
  files := ⟨.directory [], []⟩
  programs _ _ _ := .error (.errno .noSuchEntry)
  kernel := .standard
  clockCalls := []
  line := .untouched
  output := ""
  errors := ""
  heard := #[]

def withTerminal (machine : Machine) (name : String) : Machine :=
  { machine with
    files := machine.files.put (machine.files.workingDirectory ++ [name]) .terminal }

/-! ## Devices -/

def openDevice (files : FileSystem) (path : String) : Except HostError Unit := do
  match ← files.lookup (Text.Latin.ofText path) with
  | .directory _ => throw (.errno .isADirectory)
  | _ => return ()

def zeroPosition? (text : String) : Option Nat :=
  let before := text.toList.takeWhile (· ≠ '\x00')
  if before.length = text.length then none
  else some (before.flatMap String.utf8EncodeChar).length

def saveTerminal (files : FileSystem) (port : String) : Except HostError Unit := do
  match zeroPosition? port with
  | some position =>
      throw (.malformed s!"nul byte found in provided data at position: {position}")
  | none =>
      openDevice files port
      match ← files.lookup (Text.Latin.ofText port) with
      | .terminal => return ()
      | _ => throw (.errno .inappropriateControl)

/-- Why a line cannot be opened, in words that differ from the kernel's in one case. -/
def openTerminal (files : FileSystem) (port : String) : Except String Unit :=
  match saveTerminal files port with
  | .ok () => .ok ()
  | .error (.errno cause) =>
      .error
        (if cause = .inappropriateControl then "Not a typewriter" else cause.description)
  | .error (.malformed _) => .error Errno.invalidArgument.description

/-! ## As a host -/

def update (change : FileSystem → Except HostError FileSystem) :
    StateM Machine (Except HostError Unit) :=
  fun machine =>
    match change machine.files with
    | .ok files => (.ok (), { machine with files })
    | .error cause => (.error cause, machine)

def appendText (path content : String) : StateM Machine (Except HostError Unit) :=
  fun machine =>
    match machine.files.lookup (Text.Latin.ofText path) with
    | .ok (.stream 1) => (.ok (), { machine with output := machine.output ++ content })
    | _ => update (·.appendText path content) machine

def timeOfDay : String := "1970-01-01T00:00:00.000000Z"

def openLine (port : String) : StateM Machine (Except String Unit) :=
  fun machine =>
    match openTerminal machine.files port with
    | .ok () => (.ok (), { machine with line := .opened })
    | .error description => (.error description, machine)

def runProgram (name : String) (arguments : List String) :
    StateM Machine (Except HostError ExitStatus) :=
  fun machine =>
    match machine.programs machine.files name arguments with
    | .ok ending =>
        (.ok ending.status, { machine with
          files := { machine.files with root := ending.root }
          output := machine.output ++ ending.output
          errors := machine.errors ++ ending.errors })
    | .error cause => (.error cause, machine)

def host : Host (StateM Machine) where
  pathExists path := return (← get).files.pathExists (Text.Latin.ofText path)
  readText path := return (← get).files.readText path
  writeText path content := update (·.writeText path content)
  createDirectories path := update (·.createDirectories path)
  appendText := appendText
  run := runProgram
  openDevice path := return Machine.openDevice (← get).files path
  saveTerminal port := return Machine.saveTerminal (← get).files port
  openTerminal port _ := openLine port
  printLine line :=
    modify fun machine => { machine with output := machine.output ++ line ++ "\n" }
  stamp entry := return entry.printed timeOfDay

def listen {α : Type} (work : Journaled (StateM Machine) α) (machine : Machine) :
    (α × List Entry) × Machine :=
  let hear (entry : Entry) : StateM Machine Unit :=
    modify fun machine => { machine with heard := machine.heard.push entry }
  let (result, after) := (work.run hear).run { machine with heard := #[] }
  ((result, after.heard.toList), { after with heard := machine.heard })

end Machine

end ClockDiscipline
