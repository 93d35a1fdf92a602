import ClockDiscipline.Station.Devices

/-!
The serial line as a terminal. Bytes travel in order both ways; opening saves the
terminal's settings and closing puts them back. A closed line neither reads nor writes.
-/

namespace ClockDiscipline

structure Terminal where
  isOpen : Bool
  settingsChanged : Bool
  incoming : List UInt8
  deriving DecidableEq, Repr

namespace Terminal

def opened : Terminal := ⟨true, true, []⟩

def untouched : Terminal := ⟨false, false, []⟩

def receive (terminal : Terminal) (bytes : List UInt8) : Terminal :=
  { terminal with incoming := terminal.incoming ++ bytes }

def read (terminal : Terminal) (limit : Nat) :
    Except LinkFailure { bytes : List UInt8 // bytes.length ≤ limit } × Terminal :=
  if terminal.isOpen then
    (.ok ⟨terminal.incoming.take limit, List.length_take_le _ _⟩,
      { terminal with incoming := terminal.incoming.drop limit })
  else
    (.error .closed, terminal)

def write (terminal : Terminal) (bytes : List UInt8) : Except LinkFailure (List UInt8) :=
  if terminal.isOpen then .ok bytes else .error .closed

def close (terminal : Terminal) : Terminal :=
  { terminal with isOpen := false, settingsChanged := false }

end Terminal

/-- What the journal says when the line at `port` is closed. One that is closed already
has nothing to say. -/
def Terminal.closeEntries (terminal : Terminal) (port : String) : List Entry :=
  if terminal.isOpen then [.debug .link s!"Serial port {port} closed"] else []

end ClockDiscipline
