import ClockDiscipline.Host.Errno
import ClockDiscipline.Sync.Phase

/-!
The configuration of the program, with its defaults and the values that it must not have.
-/

namespace ClockDiscipline

structure SerialSettings where
  port : String
  baudRate : Nat
  deriving DecidableEq, Repr

structure PulseSettings where
  device : String
  installCommand : Option String
  removeCommand : Option String
  deriving DecidableEq, Repr

structure SyncSettings where
  syncPeriod : Nat
  driftMeasurementPeriod : Nat
  initStepDelay : Nat
  firstFixSettle : Nat
  timeSetSettle : Nat
  pollIntervalMilliseconds : Nat
  hardwareClockCommand : String
  deriving DecidableEq, Repr

structure LogSettings where
  level : String
  logFile : Option String
  deriving DecidableEq, Repr

structure Configuration where
  serial : SerialSettings
  pulse : PulseSettings
  sync : SyncSettings
  logging : LogSettings
  deriving DecidableEq, Repr

/-! ## Defaults

Each value that has a default has it here. A section that is missing is built from the
same ones as a section that lacks single values.
-/

def SerialSettings.defaultPort : String := "/dev/ttyS0"

def SerialSettings.defaultBaudRate : Nat := 4800

def SerialSettings.standard : SerialSettings where
  port := defaultPort
  baudRate := defaultBaudRate

def PulseSettings.defaultDevice : String := "/dev/gps_pps"

def PulseSettings.standard : PulseSettings where
  device := defaultDevice
  installCommand := none
  removeCommand := none

namespace SyncSettings

def defaultSyncPeriod : Nat := 3600

def defaultDriftMeasurementPeriod : Nat := 30

def defaultInitStepDelay : Nat := 2

def defaultFirstFixSettle : Nat := 60

def defaultTimeSetSettle : Nat := 5

def defaultPollInterval : Nat := 9

def defaultHardwareClockCommand : String := "hwclock --systohc"

def standard : SyncSettings where
  syncPeriod := defaultSyncPeriod
  driftMeasurementPeriod := defaultDriftMeasurementPeriod
  initStepDelay := defaultInitStepDelay
  firstFixSettle := defaultFirstFixSettle
  timeSetSettle := defaultTimeSetSettle
  pollIntervalMilliseconds := defaultPollInterval
  hardwareClockCommand := defaultHardwareClockCommand

end SyncSettings

def LogSettings.defaultLevel : String := "info"

def LogSettings.standard : LogSettings where
  level := defaultLevel
  logFile := none

def SyncSettings.timings (settings : SyncSettings) : Sync.Timings where
  initStepDelay := settings.initStepDelay
  firstFixSettle := settings.firstFixSettle
  timeSetSettle := settings.timeSetSettle
  driftWindow := settings.driftMeasurementPeriod
  syncPeriod := settings.syncPeriod

example : SyncSettings.standard.timings = .standard := rfl

namespace Configuration

def standard : Configuration where
  serial := .standard
  pulse := .standard
  sync := .standard
  logging := .standard

def sample : Configuration where
  serial := .standard
  pulse := { PulseSettings.standard with
    installCommand := some "/sbin/insmod /lib/modules/gps_pps.ko"
    removeCommand := some "/sbin/rmmod gps_pps" }
  sync := .standard
  logging := { LogSettings.standard with logFile := some "/var/log/gps-clock-sync.log" }

/-! ## Flaws -/

inductive Flaw where
  | emptyPort
  | zeroBaudRate
  | emptyDevice
  | zeroSyncPeriod
  | zeroDriftPeriod
  | zeroPollInterval
  deriving DecidableEq, Repr

def Flaw.message : Flaw → String
  | emptyPort => "Invalid serial port: must not be empty"
  | zeroBaudRate => "Invalid baud rate: must be greater than 0"
  | emptyDevice => "Invalid PPS device: must not be empty"
  | zeroSyncPeriod => "Invalid sync period: must be greater than 0"
  | zeroDriftPeriod => "Invalid drift measurement period: must be greater than 0"
  | zeroPollInterval => "Invalid poll interval: must be greater than 0"

/-- The first flaw of a configuration, if it has any. -/
def flaw? (configuration : Configuration) : Option Flaw :=
  if configuration.serial.port = "" then some .emptyPort
  else if configuration.serial.baudRate = 0 then some .zeroBaudRate
  else if configuration.pulse.device = "" then some .emptyDevice
  else if configuration.sync.syncPeriod = 0 then some .zeroSyncPeriod
  else if configuration.sync.driftMeasurementPeriod = 0 then some .zeroDriftPeriod
  else if configuration.sync.pollIntervalMilliseconds = 0 then some .zeroPollInterval
  else none

example : standard.flaw? = none ∧ sample.flaw? = none := by decide

end Configuration

end ClockDiscipline
