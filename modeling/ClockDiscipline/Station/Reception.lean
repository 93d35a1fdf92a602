import ClockDiscipline.ClockError
import ClockDiscipline.Nmea.Fields
import ClockDiscipline.Receiver
import ClockDiscipline.Station.Devices
import ClockDiscipline.Text.Quoted

/-!
What the station takes from a sentence of kind `$GPRMC`: the position, a pending request
to set the time, and a pending measurement of the clock error. The sentence names the
second of the last pulse, so the time that the driver sets at the next pulse is one second
later.
-/

namespace ClockDiscipline

/-! ## Setting the time -/

/-- A request to set the time waits for the first sentence that tells it. -/
structure TimeSetting where
  pending : Bool
  done : Bool
  deriving DecidableEq, Repr

namespace TimeSetting

def initial : TimeSetting := ⟨false, false⟩

def requested : TimeSetting := ⟨true, false⟩

def served : TimeSetting := ⟨false, true⟩

end TimeSetting

/-! ## Fields that matter -/

namespace Nmea.Fields

def time (fields : Fields) : String := fields.get 1
def status (fields : Fields) : String := fields.get 2
def date (fields : Fields) : String := fields.get 9

def coordinate (value hemisphere negativeHemisphere : String) : String :=
  if hemisphere = negativeHemisphere then "-" ++ value else value

def latitude (fields : Fields) : String := coordinate (fields.get 3) (fields.get 4) "S"
def longitude (fields : Fields) : String := coordinate (fields.get 5) (fields.get 6) "W"

def isActive (fields : Fields) : Bool := fields.status = "A"

def utc? (fields : Fields) : Option Int := Nmea.instant? fields.date fields.time

end Nmea.Fields

/-! ## Reception -/

structure Reception where
  fix : Fix
  timeSetting : TimeSetting
  clockError : ErrorMeasurement

namespace Reception

variable {World : Type}

def initial : Reception := ⟨.initial, .initial, .new⟩

/-- Hand a pending request to set the time to the pulse driver. It counts as served
whether or not the driver accepts it. -/
def serveTimeSetting (devices : Devices World) (utc : Int) (setting : TimeSetting) :
    Dialogue World TimeSetting := do
  if setting.pending then
    let _ ← Dialogue.askPulse devices (.setTime (.ofSeconds (utc + 1)))
    Dialogue.say [.info .reception s!"System time set to UTC at next PPS ({utc + 1})"]
    return .served
  else
    return setting

/-- Complete a pending measurement with the system time of the last pulse. It stays
pending when the driver does not tell that time. -/
def serveClockError (devices : Devices World) (utc : Int)
    (measurement : ErrorMeasurement) : Dialogue World ErrorMeasurement := do
  if measurement.pending then
    match ← Dialogue.askPulse devices .getTime with
    | some atPulse =>
        Dialogue.say [ErrorMeasurement.completionEntry atPulse utc]
        return measurement.complete atPulse utc
    | none => return measurement
  else
    return measurement

def confirm (fields : Nmea.Fields) (now : Nat) : Fix :=
  ⟨true, now, fields.latitude, fields.longitude⟩

def activeEntries (fields : Nmea.Fields) (fix : Fix) : List Entry :=
  (if fix.held then [] else [.info .reception "Acquired GPS position fix"]) ++
    match fields.utc? with
    | some _ => []
    | none =>
        [.warn .reception <|
          s!"Unusable $GPRMC date/time: {Text.Quoted.quote fields.date} " ++
          Text.Quoted.quote fields.time]

/-- Take what a sentence tells. One that the receiver does not vouch for tells nothing. -/
def handle (devices : Devices World) (fields : Nmea.Fields) (now : Nat)
    (reception : Reception) : Dialogue World Reception := do
  if fields.isActive then
    Dialogue.say (activeEntries fields reception.fix)
    let (timeSetting, clockError) ← match fields.utc? with
      | some utc => do
          let timeSetting ← serveTimeSetting devices utc reception.timeSetting
          let clockError ← serveClockError devices utc reception.clockError
          pure (timeSetting, clockError)
      | none => pure (reception.timeSetting, reception.clockError)
    return ⟨confirm fields now, timeSetting, clockError⟩
  else
    Dialogue.say [.debug .reception
      s!"No GPS position fix (status: {Text.Quoted.quote fields.status})"]
    return reception

end Reception

end ClockDiscipline
