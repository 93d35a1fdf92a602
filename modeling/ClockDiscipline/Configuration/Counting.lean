import ClockDiscipline.Configuration.Files

/-!
Saving a configuration where quotes in a row are counted below a limit. Which form a text
is written in depends on these counts, and a count that reaches the limit ends the
program.
-/

namespace ClockDiscipline.Configuration

open Toml (longestRun)

variable {m : Type → Type} [Monad m]

def texts (configuration : Configuration) : List String :=
  let { serial, pulse, sync, logging } := configuration
  [serial.port, pulse.device] ++ pulse.installCommand.toList ++
    pulse.removeCommand.toList ++
    [sync.hardwareClockCommand, logging.level] ++ logging.logFile.toList

def isCountable (configuration : Configuration) (limit : Nat) : Bool :=
  configuration.texts.all fun text =>
    longestRun '"' 0 0 text.toList < limit && longestRun '\'' 0 0 text.toList < limit

/-- Save a configuration unless its quotes are too many to be counted. A number that is
too large is found before they are counted. -/
def saveWithin (configuration : Configuration) (limit : Nat) (host : Host m)
    (path : String) : m (Except Overflow (Except Failure Unit)) := do
  if configuration.toText?.isNone || configuration.isCountable limit then
    return .ok (← configuration.save host path)
  else return .error .addition

end ClockDiscipline.Configuration
