import ClockDiscipline.Configuration.Basic
import ClockDiscipline.Toml.Printer

/-!
Writing a configuration: all sections and all settings in order, without the texts that
are absent. There is no text for numbers above the format's largest.
-/

namespace ClockDiscipline.Configuration

open Toml (keyLine headerLine stringText naturalText?)

def textLine (key value : String) : List Char := keyLine key (stringText value.toList)

def optionalLine (key : String) : Option String → List Char
  | none => []
  | some value => textLine key value

def naturalLine? (key : String) (value : Nat) : Option (List Char) :=
  (naturalText? value).map (keyLine key)

/-! ## Sections -/

def serialText? (settings : SerialSettings) : Option (List Char) := do
  return headerLine "serial" ++ textLine "port" settings.port ++
    (← naturalLine? "baud_rate" settings.baudRate)

def pulseText (settings : PulseSettings) : List Char :=
  headerLine "pps" ++ textLine "device" settings.device ++
    optionalLine "install_command" settings.installCommand ++
    optionalLine "remove_command" settings.removeCommand

def syncText? (settings : SyncSettings) : Option (List Char) := do
  return headerLine "sync" ++
    (← naturalLine? "sync_period" settings.syncPeriod) ++
    (← naturalLine? "drift_measurement_period" settings.driftMeasurementPeriod) ++
    (← naturalLine? "init_step_delay" settings.initStepDelay) ++
    (← naturalLine? "first_fix_settle" settings.firstFixSettle) ++
    (← naturalLine? "time_set_settle" settings.timeSetSettle) ++
    (← naturalLine? "poll_interval_ms" settings.pollIntervalMilliseconds) ++
    textLine "hwclock_command" settings.hardwareClockCommand

def loggingText (settings : LogSettings) : List Char :=
  headerLine "logging" ++ textLine "level" settings.level ++
    optionalLine "log_file" settings.logFile

def toText? (configuration : Configuration) : Option String := do
  let serial ← serialText? configuration.serial
  let sync ← syncText? configuration.sync
  return String.ofList (serial ++ '\n' :: pulseText configuration.pulse ++ '\n' :: sync ++
    '\n' :: loggingText configuration.logging)

end ClockDiscipline.Configuration
