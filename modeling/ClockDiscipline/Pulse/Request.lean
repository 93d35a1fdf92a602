import ClockDiscipline.Decimal.Fixed
import ClockDiscipline.Host.Errno

/-!
What the pulse driver understands. It stamps each pulse of the receiver with the system
time, measures a window between two pulses, sets the time at the next pulse, makes pulses
of its own and shows a status to other programs. Each request has its own kind of reply.
-/

namespace ClockDiscipline

/-- A system time in seconds since the start of 1970 and microseconds. -/
structure Timestamp where
  seconds : Int
  microseconds : Int
  deriving DecidableEq, Repr, Inhabited

def Timestamp.ofSeconds (seconds : Int) : Timestamp := ⟨seconds, 0⟩

namespace Pulse

/-- A measured window: the system times of its first and last pulse and the pulses
between. -/
structure Window where
  first : Timestamp
  last : Timestamp
  gpsSeconds : Nat
  deriving DecidableEq, Repr, Inhabited

structure Status where
  lastSynchronised : Int
  errorText : String
  latitude : String
  longitude : String
  deriving DecidableEq, Repr

def Status.ofError (lastSynchronised : Int) (error : Float)
    (latitude longitude : String) : Status :=
  ⟨lastSynchronised, Decimal.fixed 6 error, latitude, longitude⟩

inductive Request where
  | startDrift
  | stopDrift
  | getDrift
  | setTime (time : Timestamp)
  | getTime
  | startPseudoPulse
  | publish (status : Status)
  deriving DecidableEq, Repr

namespace Request

@[reducible] def Reply : Request → Type
  | getDrift => Window
  | getTime => Timestamp
  | _ => Unit

instance : (request : Request) → DecidableEq request.Reply
  | startDrift => inferInstanceAs (DecidableEq Unit)
  | stopDrift => inferInstanceAs (DecidableEq Unit)
  | getDrift => inferInstanceAs (DecidableEq Window)
  | setTime _ => inferInstanceAs (DecidableEq Unit)
  | getTime => inferInstanceAs (DecidableEq Timestamp)
  | startPseudoPulse => inferInstanceAs (DecidableEq Unit)
  | publish _ => inferInstanceAs (DecidableEq Unit)

def name : Request → String
  | startDrift => "GPS_PPS_IOC_START_DRIFT"
  | stopDrift => "GPS_PPS_IOC_STOP_DRIFT"
  | getDrift => "GPS_PPS_IOC_GET_DRIFT"
  | setTime _ => "GPS_PPS_IOC_SET_TIME"
  | getTime => "GPS_PPS_IOC_GET_TIME"
  | startPseudoPulse => "GPS_PPS_IOC_START_PSEUDO_PPS"
  | publish _ => "GPS_PPS_IOC_SET_PROC_STATUS"

end Request

inductive Failure where
  | cannotOpen (path : String) (cause : HostError)
  | requestFailed (request : Request) (cause : HostError)
  | unsupported
  deriving DecidableEq, Repr

def Failure.message : Failure → String
  | cannotOpen path cause => s!"Could not open the GPS PPS driver {path}: {cause.message}"
  | requestFailed request cause => s!"ioctl {request.name} failed: {cause.message}"
  | unsupported => "GPS PPS driver is not supported on this platform"

end Pulse

end ClockDiscipline
