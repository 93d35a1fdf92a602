import ClockDiscipline.Host.Program.Condition
import ClockDiscipline.Host.Program.Limit
import ClockDiscipline.Host.Program.Printing
import ClockDiscipline.Host.Signal
import ClockDiscipline.Host.Streams

/-!
Small programs of the host: what each does with its arguments, its streams and the files.
-/

namespace ClockDiscipline

structure Process where
  files : FileSystem
  streams : Streams
  environment : List (String × String)
  name : String
  arguments : List String
  number : Nat
  ancestors : List Nat
  lastProcess : Nat
  mask : Nat
  ignored : List Nat
  limits : List (Char × Limit)
  clock : Nat

structure Finished where
  status : ExitStatus
  files : FileSystem
  streams : Streams
  lastProcess : Nat
  clock : Nat
  sent : List (Nat × Nat)

namespace Process

def quit (process : Process) (code : Nat) : Finished :=
  ⟨.exited code, process.files, process.streams, process.lastProcess, process.clock, []⟩

def write (process : Process) (descriptor : Nat) (text : String) : Process × Bool :=
  if text = "" then (process, true)
  else
    match process.streams.write process.files descriptor text with
    | .ok (streams, files) => ({ process with streams, files }, true)
    | .error _ => (process, false)

/-- End after printing and complaining. A program fails if it cannot print. -/
def tell (process : Process) (code : Nat) (output : String) (complaints : List String) :
    Finished :=
  let { name, .. } := process
  let errors := String.join (complaints.map fun complaint => s!"{name}: {complaint}\n")
  let (process, isPrinted) := (process.write 2 errors).1.write 1 output
  if isPrinted then process.quit code
  else ((process.write 2 s!"{name}: write error: {Errno.noSpace.description}\n").1).quit 1

end Process

namespace Program

def operands : List String → List String
  | [] => []
  | "--" :: rest => rest
  | word :: rest =>
      if word.startsWith "-" && word ≠ "-" then operands rest else word :: operands rest

def quoted (word : String) : String := s!"'{word}'"

def describe : HostError → String
  | .errno cause => cause.description
  | .malformed description => description

/-- Change the files for one operand after another. `doing` says what is tried. The code
is 1 if any of them fails. -/
def changeFiles (process : Process) (doing : String)
    (change : FileSystem → String → Except HostError FileSystem) (paths : List String) :
    Finished :=
  let step (state : FileSystem × List String) (path : String) :
      FileSystem × List String :=
    match change state.1 path with
    | .ok files => (files, state.2)
    | .error cause => (state.1, s!"{doing} {quoted path}: {describe cause}" :: state.2)
  if paths.isEmpty then process.tell 1 "" ["missing operand"]
  else
    let (files, complaints) := paths.foldl step (process.files, [])
    { process with files }.tell
      (if complaints.isEmpty then 0 else 1) "" complaints.reverse

def concatenate (process : Process) (paths : List String) : Finished :=
  let step (state : Process × String × List String) (path : String) :
      Process × String × List String :=
    let (process, output, complaints) := state
    let content : Except HostError (String × Streams) :=
      if path = "-" then (process.streams.readAll process.files 0).mapError .errno
      else return (← process.files.read path, process.streams)
    match content with
    | .ok (content, streams) => ({ process with streams }, output ++ content, complaints)
    | .error cause => (process, output, s!"{path}: {describe cause}" :: complaints)
  let (process, output, complaints) :=
    (if paths.isEmpty then ["-"] else paths).foldl step (process, "", [])
  process.tell (if complaints.isEmpty then 0 else 1) output complaints.reverse

def timeUnits : List (List Char × Float) :=
  [([], 1), (['s'], 1), (['m'], 60), (['h'], 3600), (['d'], 86400)]

def longestTime : Float := 1e18

def duration? (word : String) : Option Nat := do
  let reading ← Fraction.read? word.toList
  let unit ← timeUnits.lookup reading.rest
  if 0 ≤ reading.value then
    return (min longestTime (reading.value * unit * 1e6)).toUInt64.toNat
  else none

def sleep (process : Process) (arguments : List String) : Finished :=
  match arguments.mapM duration? with
  | none => process.tell 1 "" ["invalid time interval"]
  | some [] => process.tell 1 "" ["missing operand"]
  | some durations =>
      { process with clock := durations.foldl (· + ·) process.clock }.quit 0

def list (process : Process) (paths : List String) : Finished :=
  let step (state : String × List String) (path : String) : String × List String :=
    match process.files.lookup path with
    | .ok (.directory entries) =>
        let names := (entries.map Prod.fst).filter (!·.startsWith ".")
        let sorted := names.mergeSort fun first second => !(second < first)
        (state.1 ++ String.join (sorted.map (· ++ "\n")), state.2)
    | .ok _ => (state.1 ++ path ++ "\n", state.2)
    | .error cause =>
        (state.1, s!"cannot access {quoted path}: {describe cause}" :: state.2)
  let (output, complaints) := (if paths.isEmpty then ["."] else paths).foldl step ("", [])
  process.tell (if complaints.isEmpty then 0 else 2) output complaints.reverse

def placeText (place : Place) : String := "/" ++ "/".intercalate place

/-- Remove files. Where it is forced, what does not exist is no reason to complain. -/
def removeFiles (process : Process) (arguments : List String) : Finished :=
  let isForced :=
    arguments.any fun word => word.startsWith "-" && word.toList.contains 'f'
  let paths := operands arguments
  let present := if isForced then paths.filter process.files.pathExists else paths
  if isForced && present.isEmpty then process.quit 0
  else changeFiles process "cannot remove" (·.remove false ·) present

/-- Run a program that starts no other one; nothing where there is no such program. -/
def runSimple? (process : Process) (name : String) : Option Finished :=
  let { files, arguments, .. } := process
  let condition (words : List String) : Finished :=
    process.quit (Condition.exitCode (Condition.evaluate files words))
  match name with
  | "true" => some (process.quit 0)
  | "false" => some (process.quit 1)
  | "test" => some (condition arguments)
  | "[" =>
      if arguments = ["--help"] ∨ arguments = ["--version"] then some (process.quit 0)
      else if arguments.getLast? = some "]" then some (condition arguments.dropLast)
      else some (process.tell 2 "" ["missing ']'"])
  | "echo" => some (process.tell 0 (Printing.wordsText false arguments) [])
  | "printf" =>
      match if arguments.head? = some "--" then arguments.tail else arguments with
      | [] => some (process.tell 1 "" ["missing operand"])
      | format :: rest =>
          let (text, complaints) := Printing.formatted format rest
          some (process.tell (if complaints.isEmpty then 0 else 1) text
            (complaints.map (·.message)))
  | "cat" => some (concatenate process (operands arguments))
  | "ls" => some (list process (operands arguments))
  | "pwd" => some (process.tell 0 (placeText files.workingDirectory ++ "\n") [])
  | "sleep" => some (sleep process arguments)
  | "touch" =>
      some (changeFiles process "cannot touch" (·.append · "") (operands arguments))
  | "mkdir" =>
      some (changeFiles process "cannot create directory"
        (if arguments.contains "-p" then (·.makeDirectories ·) else (·.makeDirectory ·))
        (operands arguments))
  | "rmdir" =>
      some (changeFiles process "failed to remove" (·.remove true ·) (operands arguments))
  | "rm" => some (removeFiles process arguments)
  | _ => none

def simpleNames : List String :=
  ["[", "cat", "echo", "false", "ls", "mkdir", "printf", "pwd", "rm", "rmdir", "sleep",
    "test", "touch", "true"]

def startingNames : List String := ["bash", "dash", "env", "sh"]

/-! ## Finding programs -/

def defaultSearchPath : String := "/bin:/usr/bin"

structure Found where
  path : String
  name : String

def at? (files : FileSystem) (path : String) : Except Errno Found :=
  match files.resolve path with
  | .ok walk =>
      match walk.node with
      | some .program => .ok ⟨path, walk.names.headD ""⟩
      | some _ => .error .permissionDenied
      | none => .error .noSuchEntry
  | .error (.errno cause) => .error cause
  | .error (.malformed _) => .error .invalidArgument

/-- Search for a program in one directory after another. A file that may not be run is
remembered while the search goes on. -/
def search (files : FileSystem) (name : String) (fault : Errno) :
    List String → Except Errno Found
  | [] => .error fault
  | directory :: rest =>
      match at? files (if directory = "" then name else directory ++ "/" ++ name) with
      | .ok program => .ok program
      | .error cause =>
          if cause = .permissionDenied then search files name cause rest
          else if cause = .noSuchEntry ∨ cause = .notADirectory then
            search files name fault rest
          else .error cause

/-- The program that a name leads to: a path if it has a slash, else a name to be searched
for. -/
def find (files : FileSystem) (environment : List (String × String)) (name : String) :
    Except Errno Found :=
  if name.toList.contains '/' then at? files name
  else if name = "" then .error .noSuchEntry
  else if FileSystem.maxNameSize < name.length then .error .nameTooLong
  else
    let path := (environment.lookup "PATH").getD defaultSearchPath
    search files name .noSuchEntry (path.splitOn ":")

def argumentLimit : Nat := 131072

def checkArguments (arguments : List String) : Except Errno Unit :=
  if arguments.any fun argument => argumentLimit ≤ argument.length then
    .error .argumentsTooLong
  else .ok ()

def start (files : FileSystem) (environment : List (String × String)) (name : String)
    (arguments : List String) : Except Errno String := do
  let program ← find files environment name
  checkArguments arguments
  return program.name

end Program

end ClockDiscipline
