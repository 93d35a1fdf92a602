import ClockDiscipline.Pulse.Request

/-!
Requests to the pulse driver as the host's kernel sees them. A request has a 32-bit number
made of a direction, the size of its argument, the driver's letter and the request's own
number. Arguments are records in little-endian byte order.
-/

namespace ClockDiscipline.Pulse

/-! ## Bytes of an argument -/

def littleEndian : (size : Nat) → Int → List UInt8
  | 0, _ => []
  | size + 1, value => (value % 256).toNat.toUInt8 :: littleEndian size (value / 256)

example : littleEndian 4 (-2) = [254, 255, 255, 255] := by decide

def statusTextSize : Nat := 32

def utf8 (text : String) : List UInt8 := text.toList.flatMap String.utf8EncodeChar

/-- A text in a record: as many bytes as leave room for a zero, and zeros up to the
size. -/
def textSlot (text : String) : List UInt8 :=
  let kept := (utf8 text).take (statusTextSize - 1)
  kept ++ List.replicate (statusTextSize - kept.length) 0

def timeRecord (time : Timestamp) : List UInt8 :=
  littleEndian 8 time.seconds ++ littleEndian 8 time.microseconds

/-- The record of a status. Its time has 32 bits. -/
def Status.record (status : Status) : List UInt8 :=
  littleEndian 4 status.lastSynchronised ++ textSlot status.errorText ++
    textSlot status.latitude ++ textSlot status.longitude

/-! ## Request numbers -/

inductive Direction where
  | none
  | write
  | read
  deriving DecidableEq, Repr

def Direction.code : Direction → Nat
  | none => 0
  | write => 1
  | read => 2

namespace Request

def number : Request → Nat
  | startDrift => 1
  | stopDrift => 2
  | getDrift => 3
  | setTime _ => 4
  | getTime => 5
  | startPseudoPulse => 6
  | publish _ => 7

def direction : Request → Direction
  | getDrift => .read
  | getTime => .read
  | setTime _ => .write
  | publish _ => .write
  | _ => .none

def argumentSize : Request → Nat
  | getDrift => 40
  | getTime => 16
  | setTime _ => 16
  | publish _ => 100
  | _ => 0

def driverLetter : Nat := 0xd7

def code (request : Request) : Nat :=
  request.direction.code * 0x40000000 + request.argumentSize * 0x10000 +
    driverLetter * 0x100 + request.number

example : startDrift.code = 0xd701 ∧ getTime.code = 0x8010d705 := by decide

def argument : Request → Option (List UInt8)
  | setTime time => some (timeRecord time)
  | publish status => some status.record
  | _ => none

end Request

/-! ## The driver's device -/

structure Control where
  code : Nat
  argument : Option (List UInt8)
  deriving DecidableEq, Repr

/-- Make a request that the kernel answers with `outcome`. -/
def Request.submit (request : Request) (outcome : Except Errno request.Reply) :
    Control × Except Failure request.Reply :=
  (⟨request.code, request.argument⟩,
    match outcome with
    | .ok reply => .ok reply
    | .error cause => .error (.requestFailed request (.errno cause)))

end ClockDiscipline.Pulse
