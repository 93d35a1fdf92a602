import ClockDiscipline.Host.Program.Shell.Variables

/-!
Loops. A round can be interrupted so that the loop, or one around it, is left or repeated.
-/

namespace ClockDiscipline.Shell

inductive Course where
  | on
  | again
  | ended (interruption : Option Interruption)
  deriving DecidableEq, Repr

def course (part : Run Unit) : Run Course :=
  ExceptT.mk do
    match ← part.run with
    | .ok () => return .ok .on
    | .error (.leave count) =>
        return .ok (.ended (if count ≤ 1 then none else some (.leave (count - 1))))
    | .error (.again count) =>
        return .ok (if count ≤ 1 then .again else .ended (some (.again (count - 1))))
    | .error (.back hasStatus) => return .ok (.ended (some (.back hasStatus)))
    | .error interruption => return .error interruption

def passOn : Option Interruption → Run Unit
  | none => return
  | some interruption => throw interruption

def maxRounds : Nat := 10000000

/-- Repeat a body while a test succeeds, or until it does. `status` is that of the last
round. -/
def repeatWhile (isUntil : Bool) (test body : Run Unit) :
    (rounds : Nat) → (status : Nat) → Run Unit
  | 0, _ => throw (.killed Signal.kill)
  | rounds + 1, status => do
      match ← course test with
      | .again => repeatWhile isUntil test body rounds status
      | .ended interruption =>
          unless interruption = some (.back true) do setStatus status
          passOn interruption
      | .on =>
          if ((← get).status = 0) = isUntil then setStatus status
          else
            match ← course body with
            | .ended interruption => passOn interruption
            | .on | .again =>
                let { status, .. } ← get
                repeatWhile isUntil test body rounds status

def repeatWith (name : String) (body : Run Unit) : List String → Run Unit
  | [] => return
  | value :: rest => do
      bind name (some value) id
      match ← course body with
      | .ended interruption => passOn interruption
      | .on | .again => repeatWith name body rest

def inLoop (work : Run Unit) : Run Unit := do
  modify fun state => { state with loops := state.loops + 1 }
  andThen work (modify fun state => { state with loops := state.loops - 1 })

end ClockDiscipline.Shell
