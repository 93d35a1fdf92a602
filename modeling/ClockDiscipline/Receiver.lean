import ClockDiscipline.Journal
import ClockDiscipline.Overflow

/-!
What the receiver's silence means. A position fix is lost when no sentence confirms it for
two seconds, and the receiver counts as switched off when it says nothing for five.
-/

namespace ClockDiscipline

/-! ## Position fix -/

/-- Seconds for which a fix holds without a sentence that confirms it. -/
def fixTimeout : Nat := 2

structure Fix where
  held : Bool
  lastConfirmed : Nat
  latitude : String
  longitude : String
  deriving DecidableEq, Repr

namespace Fix

def initial : Fix := ⟨false, 0, "0.0", "0.0"⟩

def lose (fix : Fix) : Fix := { fix with held := false }

/-- Give up a fix that has not been confirmed for too long. -/
def watch (fix : Fix) (now : Nat) : Except Overflow Fix :=
  if fix.held then do
    let limit ← addUnsigned fix.lastConfirmed fixTimeout
    return if limit < now then fix.lose else fix
  else
    return fix

def lossEntries (before after : Fix) : List Entry :=
  if before.held && !after.held then [.info .receiver "Lost GPS position fix"] else []

end Fix

/-! ## Power of the receiver -/

/-- Seconds of silence after which the receiver counts as switched off. -/
def powerTimeout : Nat := 5

structure ReceiverPower where
  powered : Bool
  deadline : Nat
  deriving DecidableEq, Repr

namespace ReceiverPower

def new : ReceiverPower := ⟨false, 0⟩

def hear (_ : ReceiverPower) (now : Nat) : Except Overflow ReceiverPower := do
  let deadline ← addUnsigned now powerTimeout
  return ⟨true, deadline⟩

def wakeEntries (power : ReceiverPower) : List Entry :=
  if power.powered then [] else [.info .receiver "GPS receiver power is on"]

def watch (power : ReceiverPower) (now : Nat) : ReceiverPower :=
  if power.powered && power.deadline < now then { power with powered := false }
  else power

def silenceEntries (before after : ReceiverPower) : List Entry :=
  if before.powered && !after.powered then [.info .receiver "GPS receiver power is off"]
  else []

end ReceiverPower

end ClockDiscipline
