import ClockDiscipline.Host.Interface

/-!
The system clock behind its kernel call. To change the rate, the present parameters are
read first and all but the rate are written back as they were.
-/

namespace ClockDiscipline

structure ClockCall where
  modes : Nat
  tick : Int
  frequency : Int
  offset : Int
  deriving DecidableEq, Repr

/-- What the kernel answers to the calls of one change, in order. -/
structure ClockKernel where
  tick : Int
  frequency : Int
  offset : Int
  /-- Causes of failure, zero for success; calls beyond the list succeed. -/
  outcomes : List Int

namespace ClockKernel

def standard : ClockKernel := ⟨10000, 0, 0, []⟩

def failure? (kernel : ClockKernel) (index : Nat) : Option HostError :=
  match kernel.outcomes[index]? with
  | none => none
  | some number => if number = 0 then none else some (.errno ⟨number⟩)

def readingCall : ClockCall := ⟨0, 0, 0, 0⟩

/-- Mode bits that announce a new frequency and a new tick. -/
def rateModes : Nat := 0x0002 + 0x4000

def writingCall (kernel : ClockKernel) (adjustment : Adjustment) : ClockCall :=
  ⟨rateModes, adjustment.tick, adjustment.frequency, kernel.offset⟩

def adjust (kernel : ClockKernel) (adjustment : Adjustment) :
    List ClockCall × Except ClockFailure Unit × List Entry :=
  match kernel.failure? 0 with
  | some cause => ([readingCall], .error (.adjustment cause), [])
  | none =>
      let calls := [readingCall, kernel.writingCall adjustment]
      match kernel.failure? 1 with
      | some cause => (calls, .error (.adjustment cause), [])
      | none =>
          (calls, .ok (), [.debug .clock
            s!"Clock rate set: tick={adjustment.tick}, freq={adjustment.frequency}"])

end ClockKernel

def setHardwareClock {m : Type → Type} [Monad m] (host : Host m) (command : String) :
    Journaled m (Except ClockFailure Unit) := do
  match ← host.runLine command with
  | .ok () =>
      Journaled.say [.debug .clock "Hardware clock set from system time"]
      return .ok ()
  | .error failure => return .error failure

end ClockDiscipline
