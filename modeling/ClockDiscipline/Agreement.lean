/-!
Agreement of measured samples. The last five samples stand in a ring of slots. They agree
when there are five since the last restart and samples in neighbouring slots differ by no
more than a tolerance. The newest and the oldest slot are no neighbours when the ring has
just wrapped.
-/

namespace ClockDiscipline

abbrev agreementSize : Nat := 5

structure Agreement where
  samples : Vector Float agreementSize
  index : Fin agreementSize
  count : Nat
  tolerance : Float

namespace Agreement

/-- The largest difference between neighbouring drift rates, in seconds per second. -/
def driftTolerance : Float := 0.000020

/-- The largest difference between neighbouring clock errors, in seconds. -/
def errorTolerance : Float := 0.005

def new (tolerance : Float) : Agreement where
  samples := Vector.replicate agreementSize 0.0
  index := 0
  count := 0
  tolerance := tolerance

def drift : Agreement := new driftTolerance

def error : Agreement := new errorTolerance

/-- Start over; the slots keep their samples until new ones replace them. -/
def restart (agreement : Agreement) : Agreement :=
  { agreement with index := 0, count := 0 }

def isFull (agreement : Agreement) : Bool := agreement.count == agreementSize

def insert (agreement : Agreement) (sample : Float) : Agreement :=
  { agreement with
    samples := agreement.samples.set agreement.index sample
    index := agreement.index + 1
    count :=
      if agreement.count < agreementSize then agreement.count + 1 else agreement.count }

def isSteady (agreement : Agreement) : Bool :=
  (agreement.samples.toList.zip agreement.samples.toList.tail).all fun (sample, next) =>
    decide ((sample - next).abs ≤ agreement.tolerance)

def consider (agreement : Agreement) (sample : Float) : Bool × Agreement :=
  let extended := agreement.insert sample
  (extended.isFull && extended.isSteady, extended)

def mean (agreement : Agreement) : Float :=
  agreement.samples.toList.foldl (· + ·) (-0.0) / 5.0

end Agreement

end ClockDiscipline
