import ClockDiscipline.Configuration.Files
import ClockDiscipline.Host.Path
import ClockDiscipline.Journal.Directive
import ClockDiscipline.Station.Opening
import ClockDiscipline.Worker.Basic

/-!
What the program does up to the first poll: it finds its configuration or writes a sample
of one, opens the journal, tells what it will do, and opens the station's devices.
-/

namespace ClockDiscipline.Startup

variable {m : Type → Type} [Monad m]

/-! ## Failures -/

inductive Failure where
  | configuration (cause : Configuration.Failure)
  | directory (cause : HostError)
  | sample (cause : Configuration.Failure)
  | filter (fault : Directive.Fault)
  | logFile (path : String) (cause : HostError)
  | refused
  deriving DecidableEq, Repr

namespace Failure

def message : Failure → String
  | configuration cause => cause.message
  | directory _ => "Failed to create config directory"
  | sample _ => "Failed to create example config"
  | filter _ => "Failed to create log filter"
  | logFile path _ => s!"Failed to open log file {path}"
  | refused => "Failed to start GPS I/O thread"

def causes : Failure → List String
  | configuration cause => cause.causes
  | directory cause => [cause.message]
  | sample cause => cause.message :: cause.causes
  | filter fault => fault.causes
  | logFile _ cause => [cause.message]
  | refused => [Worker.refusalMessage]

def indented (width : Nat) (text : String) : String :=
  String.ofList <| text.toList.flatMap fun character =>
    if character = '\n' then '\n' :: List.replicate width ' ' else [character]

def causeLines : List String → List String
  | [] => []
  | [cause] => ["", "Caused by:", "    " ++ indented 4 cause]
  | causes =>
      "" :: "Caused by:" ::
        causes.zipIdx.map fun (cause, index) => s!"    {index}: {indented 7 cause}"

/-- Whether the program breaks off in the middle of its work. -/
def isCrash (failure : Failure) : Bool := failure matches .filter .splitCharacter

def report (failure : Failure) : String :=
  if failure.isCrash then "\n".intercalate failure.causes
  else "\n".intercalate (("Error: " ++ failure.message) :: causeLines failure.causes)

def exitCode (failure : Failure) : UInt8 := if failure.isCrash then 101 else 1

example : (sample (.write (.errno .notADirectory))).report =
    "Error: Failed to create example config\n\nCaused by:\n    0: Failed to write config file\n" ++
      "    1: Not a directory (os error 20)" := by decide +kernel

end Failure

/-! ## Configuration -/

def defaultPath : String := "/etc/gps-clock-sync/config.toml"

def version : String := "0.1.0"

structure Invocation where
  arguments : List String
  directives : Option String

def Invocation.path (invocation : Invocation) : String :=
  invocation.arguments.headD defaultPath

/-- Create the directory that a file is to lie in, unless it is there. -/
def createParent (host : Host m) (path : String) : ExceptT Failure m Unit := do
  match Path.parent? path with
  | none => return
  | some parent =>
      unless ← host.pathExists parent do
        ExceptT.mk do return (← host.createDirectories parent).mapError .directory

def load (host : Host m) (path : String) : ExceptT Failure m Configuration :=
  ExceptT.mk do return (← Configuration.load host path).mapError .configuration

def loadOrCreate (host : Host m) (path : String) :
    ExceptT Failure m (Configuration × Bool) := do
  if ← host.pathExists path then
    return (← load host path, false)
  else
    createParent host path
    ExceptT.mk do return (← Configuration.sample.save host path).mapError .sample
    return (← load host path, true)

/-! ## Journal -/

/-- Where entries go: those that the filter lets through are printed, and added to a file
if there is one. -/
structure Outlet where
  filter : JournalFilter
  file : Option String

namespace Outlet

def ofSettings (host : Host m) (invocation : Invocation) (settings : LogSettings) :
    ExceptT Failure m Outlet := do
  let filter ← ExceptT.mk <| pure <|
    (JournalFilter.choose invocation.directives settings.level).mapError .filter
  if let some path := settings.logFile then
    ExceptT.mk do return (← host.appendText path "").mapError (.logFile path)
  return ⟨filter, settings.logFile⟩

def writeEntry (outlet : Outlet) (host : Host m) (entry : Entry) : m Unit := do
  if outlet.filter.allows entry then
    let line ← host.stamp entry
    host.printLine line
    if let some path := outlet.file then
      let _ ← host.appendText path (line ++ "\n")

def write (outlet : Outlet) (host : Host m) (entries : List Entry) :
    ExceptT Failure m Unit :=
  ExceptT.lift (entries.forM (outlet.writeEntry host))

end Outlet

def greeting : List Entry :=
  [.info .program s!"GPS clock sync v{version}",
    .info .program "System clock discipline from GPS $GPRMC and PPS"]

def originEntries (path : String) (created : Bool) : List Entry :=
  if created then
    [.warn .program s!"Configuration file not found: {path}",
      .info .program s!"Example configuration created at {path}"]
  else
    [.info .program s!"Loaded configuration from {path}"]

def summary (configuration : Configuration) : List Entry :=
  let { serial, pulse, sync, .. } := configuration
  [.info .program "Configuration:",
    .info .program s!"  Serial port: {serial.port} @ {serial.baudRate} baud",
    .info .program s!"  PPS device: {pulse.device}",
    .info .program s!"  Sync period: {sync.syncPeriod} s",
    .info .program s!"  Drift window: {sync.driftMeasurementPeriod} s",
    .info .program s!"  Poll interval: {sync.pollIntervalMilliseconds} ms"]

/-! ## The station -/

def openStation (host : Host m) (outlet : Outlet) (configuration : Configuration) :
    ExceptT Failure m Unit := do
  outlet.write host [Worker.startEntry]
  match ← (Station.openDevices host configuration).run (outlet.writeEntry host) with
  | .ok () => outlet.write host [Worker.runningEntry]
  | .error cause =>
      outlet.write host [Worker.refusalEntry cause]
      throw .refused

/-- Start the program, up to the first poll of the station. -/
def run (host : Host m) (invocation : Invocation) : ExceptT Failure m Configuration := do
  let (configuration, created) ← loadOrCreate host invocation.path
  let outlet ← Outlet.ofSettings host invocation configuration.logging
  outlet.write host greeting
  outlet.write host (originEntries invocation.path created)
  outlet.write host (summary configuration)
  openStation host outlet configuration
  outlet.write host [.info .program "Press Ctrl+C to stop"]
  return configuration

end ClockDiscipline.Startup
