import ClockDiscipline.Overflow

/-!
The rate of the system clock as the host takes it: microseconds for each of a hundred
ticks a second, and a fine part in parts per million with sixteen binary places. A rate is
cut to whole parts per million.
-/

namespace ClockDiscipline

structure Adjustment where
  tick : Int
  frequency : Int
  deriving DecidableEq, Repr

namespace Adjustment

def nominalTick : Int := 10000

/-- Parts per million by which one more microsecond in a tick changes the rate. -/
def partsPerTick : Nat := 100

def frequencyScale : Nat := 65536

def nominal : Adjustment := ⟨nominalTick, 0⟩

/-! ## From a rate -/

def direction (rate : Float) : Int := if rate ≥ 0.0 then 1 else -1

/-- The magnitude of a rate in whole parts per million, at most the largest signed
quantity. Not-a-number has none. -/
def partsPerMillion (rate : Float) : Nat :=
  min (rate * 1000000.0).abs.toUInt64.toNat signedMaximum

/-- Hundreds of parts go into the tick as long as more than a hundred are left. -/
def ofParts (direction : Int) (parts : Nat) : Adjustment :=
  let steps := (parts - 1) / partsPerTick
  ⟨nominalTick + direction * steps,
    (parts - steps * partsPerTick : Nat) * frequencyScale * direction⟩

def ofRate (rate : Float) : Adjustment :=
  ofParts (direction rate) (partsPerMillion rate)

example :
    ofParts 1 255 = ⟨10002, 55 * 65536⟩ ∧ ofParts (-1) 200 = ⟨9999, -100 * 65536⟩ := by
  decide

/-! ## Back to a rate -/

def tickParts (adjustment : Adjustment) : Int :=
  (adjustment.tick - nominalTick) * partsPerTick

def rate (adjustment : Adjustment) : Float :=
  (Float.ofInt adjustment.tickParts + Float.ofInt adjustment.frequency / 65536.0) /
    1000000.0

def rate? (adjustment : Adjustment) : Except Overflow Float := do
  let distance ← requireSigned .subtraction (adjustment.tick - nominalTick)
  let _ ← requireSigned .multiplication (distance * partsPerTick)
  return adjustment.rate

end Adjustment

end ClockDiscipline
