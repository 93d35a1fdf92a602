import ClockDiscipline.Configuration.Reader
import ClockDiscipline.Configuration.Writer
import ClockDiscipline.Host.Interface

/-!
Configurations in files of the host.
-/

namespace ClockDiscipline.Configuration

variable {m : Type → Type} [Monad m]

def load (host : Host m) (path : String) : m (Except Failure Configuration) :=
  return ofContent (← host.readText path)

/-- Write a configuration to a file, which is not touched when there is no text for it. -/
def save (configuration : Configuration) (host : Host m) (path : String) :
    m (Except Failure Unit) := do
  match configuration.toText? with
  | none => return .error .serialize
  | some text => return (← host.writeText path text).mapError .write

end ClockDiscipline.Configuration
