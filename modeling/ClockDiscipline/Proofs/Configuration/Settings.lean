import ClockDiscipline.Configuration.Reader
import ClockDiscipline.Proofs.Toml.Scalars

/-!
The settings of a configuration, one by one: where each stands in a document, what values
it takes and what a configuration has for it. A document of admitted values is read as the
standard configuration with the values that it gives.
-/

namespace ClockDiscipline.Configuration

open Toml (Value Entries Scalar)

/-! ## Settings -/

inductive Setting where
  | port
  | baudRate
  | device
  | installCommand
  | removeCommand
  | syncPeriod
  | driftMeasurementPeriod
  | initStepDelay
  | firstFixSettle
  | timeSetSettle
  | pollIntervalMilliseconds
  | hardwareClockCommand
  | level
  | logFile
  deriving DecidableEq, Repr

namespace Setting

def heading : Setting → String
  | port => "serial"
  | baudRate => "serial"
  | device => "pps"
  | installCommand => "pps"
  | removeCommand => "pps"
  | level => "logging"
  | logFile => "logging"
  | _ => "sync"

def key : Setting → String
  | port => "port"
  | baudRate => "baud_rate"
  | device => "device"
  | installCommand => "install_command"
  | removeCommand => "remove_command"
  | syncPeriod => "sync_period"
  | driftMeasurementPeriod => "drift_measurement_period"
  | initStepDelay => "init_step_delay"
  | firstFixSettle => "first_fix_settle"
  | timeSetSettle => "time_set_settle"
  | pollIntervalMilliseconds => "poll_interval_ms"
  | hardwareClockCommand => "hwclock_command"
  | level => "level"
  | logFile => "log_file"

inductive Kind where
  | text
  | natural (limit : Nat)

def kind : Setting → Kind
  | baudRate => .natural 0x100000000
  | syncPeriod => .natural 0x10000000000000000
  | driftMeasurementPeriod => .natural 0x10000000000000000
  | initStepDelay => .natural 0x10000000000000000
  | firstFixSettle => .natural 0x10000000000000000
  | timeSetSettle => .natural 0x10000000000000000
  | pollIntervalMilliseconds => .natural 0x10000000000000000
  | _ => .text

def Kind.admits : Kind → Value → Bool
  | text, .string _ => true
  | natural limit, .integer value => 0 ≤ value && value < limit
  | _, _ => false

private theorem Kind.eq_string_of_admits {value : Value}
    (admitted : text.admits value = true) : ∃ content, value = .string content := by
  cases value with
  | string content => exact ⟨content, rfl⟩
  | _ => cases admitted

private theorem Kind.eq_integer_of_admits {limit : Nat} {value : Value}
    (admitted : (natural limit).admits value = true) :
    ∃ number < limit, value = .integer (number : Nat) := by
  cases value with
  | integer value =>
      rw [admits, Bool.and_eq_true, decide_eq_true_eq, decide_eq_true_eq] at admitted
      rcases Int.eq_ofNat_of_zero_le admitted.1 with ⟨number, rfl⟩
      exact ⟨number, Int.ofNat_lt.mp admitted.2, rfl⟩
  | _ => cases admitted

def scalar? (configuration : Configuration) : Setting → Option Scalar
  | port => some (.text configuration.serial.port)
  | baudRate => some (.natural configuration.serial.baudRate)
  | device => some (.text configuration.pulse.device)
  | installCommand => configuration.pulse.installCommand.map .text
  | removeCommand => configuration.pulse.removeCommand.map .text
  | syncPeriod => some (.natural configuration.sync.syncPeriod)
  | driftMeasurementPeriod => some (.natural configuration.sync.driftMeasurementPeriod)
  | initStepDelay => some (.natural configuration.sync.initStepDelay)
  | firstFixSettle => some (.natural configuration.sync.firstFixSettle)
  | timeSetSettle => some (.natural configuration.sync.timeSetSettle)
  | pollIntervalMilliseconds =>
      some (.natural configuration.sync.pollIntervalMilliseconds)
  | hardwareClockCommand => some (.text configuration.sync.hardwareClockCommand)
  | level => some (.text configuration.logging.level)
  | logFile => configuration.logging.logFile.map .text

def value? (configuration : Configuration) (setting : Setting) : Option Value :=
  (setting.scalar? configuration).map Scalar.value

end Setting

private theorem ext_value? {left right : Configuration}
    (same : ∀ setting : Setting, setting.value? left = setting.value? right) :
    left = right := by
  have scalars (setting : Setting) : setting.scalar? left = setting.scalar? right :=
    Option.map_injective Scalar.value_injective (same setting)
  have text {left right : Option String} (same : left.map Scalar.text = right.map .text) :
      left = right := Option.map_injective (fun _ _ => Scalar.text.inj) same
  rcases left with ⟨⟨_, _⟩, ⟨_, _, _⟩, ⟨_, _, _, _, _, _, _⟩, ⟨_, _⟩⟩
  rcases right with ⟨⟨_, _⟩, ⟨_, _, _⟩, ⟨_, _, _, _, _, _, _⟩, ⟨_, _⟩⟩
  cases scalars .port
  cases scalars .baudRate
  cases scalars .device
  cases text (scalars .installCommand)
  cases text (scalars .removeCommand)
  cases scalars .syncPeriod
  cases scalars .driftMeasurementPeriod
  cases scalars .initStepDelay
  cases scalars .firstFixSettle
  cases scalars .timeSetSettle
  cases scalars .pollIntervalMilliseconds
  cases scalars .hardwareClockCommand
  cases scalars .level
  cases text (scalars .logFile)
  rfl

/-! ## Documents -/

def entriesIn (document : Entries) (heading : String) : Entries :=
  match document.find? heading with
  | some (.table _ entries) => entries
  | _ => []

def Setting.given? (document : Entries) (setting : Setting) : Option Value :=
  (entriesIn document setting.heading).find? setting.key

def isTable : Value → Bool
  | .table _ _ => true
  | _ => false

/-- The known sections are tables, and what they hold for known settings is of their
kind. -/
structure IsAdmitted (document : Entries) : Prop where
  sections (setting : Setting) : (document.find? setting.heading).all isTable = true
  values (setting : Setting) : (setting.given? document).all setting.kind.admits = true

/-- The configuration is the standard one with the values that a document gives. -/
def IsReplaced (document : Entries) (configuration : Configuration) : Prop :=
  ∀ setting : Setting, setting.value? configuration =
    (setting.given? document).or (setting.value? .standard)

theorem IsReplaced.unique {document : Entries} {left right : Configuration}
    (replaced : IsReplaced document left) (other : IsReplaced document right) :
    left = right :=
  ext_value? fun setting => (replaced setting).trans (other setting).symm

/-! ## Reading -/

section Reading

variable {entries : Entries} {key : String}

private theorem read?_of_admits {α : Type} {read : Value → Option α} (shown : α → Value)
    (place : Nat) (default : α) (reads : ∀ value, entries.find? key = some value →
      ∃ content, read value = some content ∧ shown content = value) :
    ∃ content, (Section.named entries).read? place key read default = some content ∧
      some (shown content) = (entries.find? key).or (some (shown default)) := by
  cases found : entries.find? key with
  | none => exact ⟨default, by simp [Section.read?, Section.find?, found], rfl⟩
  | some value =>
      rcases reads value found with ⟨content, read, rfl⟩
      exact ⟨content, by simp [Section.read?, Section.find?, found, read], rfl⟩

private theorem read?_text (place : Nat) (default : String)
    (admitted : (entries.find? key).all Setting.Kind.text.admits = true) :
    ∃ text, (Section.named entries).read? place key text? default = some text ∧
      some (Value.string text) = (entries.find? key).or (some (.string default)) := by
  refine read?_of_admits Value.string place default fun value found => ?_
  rw [found] at admitted
  rcases Setting.Kind.eq_string_of_admits admitted with ⟨content, rfl⟩
  exact ⟨content, rfl, rfl⟩

private theorem read?_natural {limit : Nat} (place default : Nat)
    (admitted : (entries.find? key).all (Setting.Kind.natural limit).admits = true) :
    ∃ number,
      (Section.named entries).read? place key (natural? limit) default = some number ∧
      some (Value.integer (number : Nat)) =
        (entries.find? key).or (some (.integer (default : Nat))) := by
  refine read?_of_admits (fun number => Value.integer (number : Nat)) place default
    fun value found => ?_
  rw [found] at admitted
  rcases Setting.Kind.eq_integer_of_admits admitted with ⟨number, small, rfl⟩
  exact ⟨number, by simp [natural?, small], rfl⟩

private theorem readOptional?_text (place : Nat)
    (admitted : (entries.find? key).all Setting.Kind.text.admits = true) :
    ∃ text : Option String, (Section.named entries).readOptional? place key = some text ∧
      (text.map Scalar.text).map Scalar.value = (entries.find? key).or none := by
  cases found : entries.find? key with
  | none => exact ⟨none, by simp [Section.readOptional?, Section.find?, found], rfl⟩
  | some value =>
      rw [found] at admitted
      rcases Setting.Kind.eq_string_of_admits admitted with ⟨content, rfl⟩
      exact ⟨some content,
        by simp [Section.readOptional?, Section.find?, found, text?], rfl⟩

end Reading

/-! ## Sections -/

def AreAdmitted (heading : String) (entries : Entries) : Prop :=
  ∀ setting : Setting, setting.heading = heading →
    (entries.find? setting.key).all setting.kind.admits = true

/-- The settings of a section are those that are given, and defaults for the others. -/
def AreReplaced (heading : String) (entries : Entries) (configuration : Configuration) :
    Prop :=
  ∀ setting : Setting, setting.heading = heading →
    setting.value? configuration =
      (entries.find? setting.key).or (setting.value? .standard)

section Sections

variable {entries : Entries}

private theorem exists_serial? (admits : AreAdmitted "serial" entries) :
    ∃ settings,
      serial? (.named entries) = some settings ∧ ∀ configuration : Configuration,
      AreReplaced "serial" entries { configuration with serial := settings } := by
  rcases read?_text 0 SerialSettings.defaultPort (admits .port rfl) with
    ⟨port, readPort, isPort⟩
  rcases read?_natural 1 SerialSettings.defaultBaudRate (admits .baudRate rfl) with
    ⟨baudRate, readBaudRate, isBaudRate⟩
  refine ⟨⟨port, baudRate⟩, ?_, ?_⟩
  · dsimp only [Setting.key] at *
    simp [serial?, readPort, readBaudRate]
  · intro configuration setting within
    cases setting with
    | port => exact isPort
    | baudRate => exact isBaudRate
    | _ => exact absurd within (by decide)

private theorem exists_pulse? (admits : AreAdmitted "pps" entries) :
    ∃ settings, pulse? (.named entries) = some settings ∧ ∀ configuration : Configuration,
      AreReplaced "pps" entries { configuration with pulse := settings } := by
  rcases read?_text 0 PulseSettings.defaultDevice (admits .device rfl) with
    ⟨device, readDevice, isDevice⟩
  rcases readOptional?_text 1 (admits .installCommand rfl) with
    ⟨install, readInstall, isInstall⟩
  rcases readOptional?_text 2 (admits .removeCommand rfl) with
    ⟨remove, readRemove, isRemove⟩
  refine ⟨⟨device, install, remove⟩, ?_, ?_⟩
  · dsimp only [Setting.key] at *
    simp [pulse?, readDevice, readInstall, readRemove]
  · intro configuration setting within
    cases setting with
    | device => exact isDevice
    | installCommand => exact isInstall
    | removeCommand => exact isRemove
    | _ => exact absurd within (by decide)

private theorem exists_sync? (admits : AreAdmitted "sync" entries) :
    ∃ settings, sync? (.named entries) = some settings ∧ ∀ configuration : Configuration,
      AreReplaced "sync" entries { configuration with sync := settings } := by
  rcases read?_natural 0 SyncSettings.defaultSyncPeriod (admits .syncPeriod rfl) with
    ⟨syncPeriod, readSyncPeriod, isSyncPeriod⟩
  rcases read?_natural 1 SyncSettings.defaultDriftMeasurementPeriod
    (admits .driftMeasurementPeriod rfl) with
    ⟨driftPeriod, readDriftPeriod, isDriftPeriod⟩
  rcases read?_natural 2 SyncSettings.defaultInitStepDelay
    (admits .initStepDelay rfl) with
    ⟨initStepDelay, readInitStepDelay, isInitStepDelay⟩
  rcases read?_natural 3 SyncSettings.defaultFirstFixSettle
    (admits .firstFixSettle rfl) with
    ⟨firstFixSettle, readFirstFixSettle, isFirstFixSettle⟩
  rcases read?_natural 4 SyncSettings.defaultTimeSetSettle
    (admits .timeSetSettle rfl) with
    ⟨timeSetSettle, readTimeSetSettle, isTimeSetSettle⟩
  rcases read?_natural 5 SyncSettings.defaultPollInterval
    (admits .pollIntervalMilliseconds rfl) with
    ⟨pollInterval, readPollInterval, isPollInterval⟩
  rcases read?_text 6 SyncSettings.defaultHardwareClockCommand
    (admits .hardwareClockCommand rfl) with ⟨command, readCommand, isCommand⟩
  refine ⟨⟨syncPeriod, driftPeriod, initStepDelay, firstFixSettle, timeSetSettle,
    pollInterval, command⟩, ?_, ?_⟩
  · dsimp only [Setting.key] at *
    simp [sync?, readSyncPeriod, readDriftPeriod, readInitStepDelay, readFirstFixSettle,
      readTimeSetSettle, readPollInterval, readCommand]
  · intro configuration setting within
    cases setting with
    | syncPeriod => exact isSyncPeriod
    | driftMeasurementPeriod => exact isDriftPeriod
    | initStepDelay => exact isInitStepDelay
    | firstFixSettle => exact isFirstFixSettle
    | timeSetSettle => exact isTimeSetSettle
    | pollIntervalMilliseconds => exact isPollInterval
    | hardwareClockCommand => exact isCommand
    | _ => exact absurd within (by decide)

private theorem exists_logging? (admits : AreAdmitted "logging" entries) :
    ∃ settings,
      logging? (.named entries) = some settings ∧ ∀ configuration : Configuration,
      AreReplaced "logging" entries { configuration with logging := settings } := by
  rcases read?_text 0 LogSettings.defaultLevel (admits .level rfl) with
    ⟨level, readLevel, isLevel⟩
  rcases readOptional?_text 1 (admits .logFile rfl) with ⟨logFile, readLogFile, isLogFile⟩
  refine ⟨⟨level, logFile⟩, ?_, ?_⟩
  · dsimp only [Setting.key] at *
    simp [logging?, readLevel, readLogFile]
  · intro configuration setting within
    cases setting with
    | level => exact isLevel
    | logFile => exact isLogFile
    | _ => exact absurd within (by decide)

end Sections

/-- A section that is missing is read as an empty one. -/
private theorem settings?_eq {α : Type} {document : Entries} (heading : String)
    (read : Section → Option α) (default : α)
    (table : (document.find? heading).all isTable = true)
    (empty : read (.named []) = some default) :
    settings? document heading read default =
      read (.named (entriesIn document heading)) := by
  rw [settings?, entriesIn]
  cases found : document.find? heading with
  | none => exact empty.symm
  | some value =>
      rw [found] at table
      cases value with
      | table origin entries => rfl
      | _ => cases table

private theorem Setting.heading_cases (setting : Setting) :
    setting.heading = "serial" ∨ setting.heading = "pps" ∨ setting.heading = "sync" ∨
      setting.heading = "logging" := by
  cases setting <;> decide

/-- A document of admitted values tells a configuration: it has what is given, and its
defaults otherwise. -/
theorem exists_ofDocument? {document : Entries} (admitted : IsAdmitted document) :
    ∃ configuration, ofDocument? document = some configuration ∧
      IsReplaced document configuration := by
  have admits (heading : String) : AreAdmitted heading (entriesIn document heading) := by
    rintro setting rfl
    exact admitted.values setting
  have sections := admitted.sections
  rcases exists_serial? (admits "serial") with ⟨serial, readSerial, inSerial⟩
  rcases exists_pulse? (admits "pps") with ⟨pulse, readPulse, inPulse⟩
  rcases exists_sync? (admits "sync") with ⟨sync, readSync, inSync⟩
  rcases exists_logging? (admits "logging") with ⟨logging, readLogging, inLogging⟩
  rw [← settings?_eq "serial" serial? .standard (sections .port) rfl] at readSerial
  rw [← settings?_eq "pps" pulse? .standard (sections .device) rfl] at readPulse
  rw [← settings?_eq "sync" sync? .standard (sections .syncPeriod) rfl] at readSync
  rw [← settings?_eq "logging" logging? .standard (sections .level) rfl] at readLogging
  let configuration : Configuration := ⟨serial, pulse, sync, logging⟩
  refine ⟨configuration, ?_, fun setting => ?_⟩
  · simp [ofDocument?, readSerial, readPulse, readSync, readLogging, configuration]
  rcases setting.heading_cases with within | within | within | within
  · rw [Setting.given?, within, inSerial configuration setting within]
  · rw [Setting.given?, within, inPulse configuration setting within]
  · rw [Setting.given?, within, inSync configuration setting within]
  · rw [Setting.given?, within, inLogging configuration setting within]

end ClockDiscipline.Configuration
