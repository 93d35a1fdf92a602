import ClockDiscipline.Configuration.Basic
import ClockDiscipline.Toml.Document

/-!
Reading a configuration. Sections and keys may be missing, which leaves their defaults;
unknown ones are passed over; a value of the wrong type or range is refused. A section may
also list its values without their keys, in the order of the settings.
-/

namespace ClockDiscipline.Configuration

open Toml (Value Entries)

/-! ## Values -/

def text? : Value → Option String
  | .string text => some text
  | _ => none

def natural? (limit : Nat) : Value → Option Nat
  | .integer value => if 0 ≤ value ∧ value < limit then some value.toNat else none
  | _ => none

/-! ## Sections -/

inductive Section where
  | named (entries : Entries)
  | listed (items : List Value)

/-- The form that a value has as a section. A time has no settings in it. -/
def section? : Value → Option Section
  | .table _ entries => some (.named entries)
  | .array items => some (.listed items)
  | .tables items => some (.listed items)
  | .datetime _ => some (.named [])
  | _ => none

namespace Section

def find? (settings : Section) (place : Nat) (key : String) : Option Value :=
  match settings with
  | named entries => entries.find? key
  | listed items => items[place]?

def read? {α : Type} (settings : Section) (place : Nat) (key : String)
    (read : Value → Option α)
    (default : α) : Option α :=
  match settings.find? place key with
  | none => some default
  | some value => read value

/-- A text that may be absent. A list of values must not stop before it. -/
def readOptional? (settings : Section) (place : Nat) (key : String) :
    Option (Option String) :=
  match settings, settings.find? place key with
  | named _, none => some none
  | listed _, none => none
  | _, some value => (text? value).map some

end Section

/-! ## Settings -/

def serial? (settings : Section) : Option SerialSettings := do
  return {
    port := ← settings.read? 0 "port" text? SerialSettings.defaultPort
    baudRate :=
      ← settings.read? 1 "baud_rate"
        (natural? 0x100000000) SerialSettings.defaultBaudRate }

def pulse? (settings : Section) : Option PulseSettings := do
  return {
    device := ← settings.read? 0 "device" text? PulseSettings.defaultDevice
    installCommand := ← settings.readOptional? 1 "install_command"
    removeCommand := ← settings.readOptional? 2 "remove_command" }

open SyncSettings in
def sync? (settings : Section) : Option SyncSettings := do
  let seconds (place : Nat) (key : String) (default : Nat) : Option Nat :=
    settings.read? place key (natural? 0x10000000000000000) default
  return {
    syncPeriod := ← seconds 0 "sync_period" defaultSyncPeriod
    driftMeasurementPeriod := ← seconds 1 "drift_measurement_period"
      defaultDriftMeasurementPeriod
    initStepDelay := ← seconds 2 "init_step_delay" defaultInitStepDelay
    firstFixSettle := ← seconds 3 "first_fix_settle" defaultFirstFixSettle
    timeSetSettle := ← seconds 4 "time_set_settle" defaultTimeSetSettle
    pollIntervalMilliseconds := ← seconds 5 "poll_interval_ms" defaultPollInterval
    hardwareClockCommand :=
      ← settings.read? 6 "hwclock_command" text? defaultHardwareClockCommand }

def logging? (settings : Section) : Option LogSettings := do
  return {
    level := ← settings.read? 0 "level" text? LogSettings.defaultLevel
    logFile := ← settings.readOptional? 1 "log_file" }

def settings? {α : Type} (document : Entries) (key : String) (read : Section → Option α)
    (default : α) : Option α :=
  match document.find? key with
  | none => some default
  | some value => section? value >>= read

def ofDocument? (document : Entries) : Option Configuration := do
  return {
    serial := ← settings? document "serial" serial? .standard
    pulse := ← settings? document "pps" pulse? .standard
    sync := ← settings? document "sync" sync? .standard
    logging := ← settings? document "logging" logging? .standard }

/-! ## Files -/

inductive Failure where
  | read (cause : HostError)
  | parse
  | serialize
  | write (cause : HostError)
  | invalid (flaw : Flaw)
  deriving DecidableEq, Repr

def Failure.message : Failure → String
  | read _ => "Failed to read config file"
  | parse => "Failed to parse config file"
  | serialize => "Failed to serialize config"
  | write _ => "Failed to write config file"
  | invalid flaw => flaw.message

def Failure.causes : Failure → List String
  | read cause => [cause.message]
  | write cause => [cause.message]
  | _ => []

def ofText (text : String) : Except Failure Configuration :=
  match Toml.parse? text >>= ofDocument? with
  | none => .error .parse
  | some configuration =>
      match configuration.flaw? with
      | some flaw => .error (.invalid flaw)
      | none => .ok configuration

def ofContent : Except HostError String → Except Failure Configuration
  | .error cause => .error (.read cause)
  | .ok text => ofText text

end ClockDiscipline.Configuration
