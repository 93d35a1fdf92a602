import ClockDiscipline.Host.Program.Shell.Variables

/-!
Commands with which a script goes another way than straight on.
-/

namespace ClockDiscipline.Shell.Builtin

def firstCount? : List String → Run (Option Nat)
  | [] => return none
  | word :: _ => return some (← orFail (Arguments.count word))

def exit (arguments : List String) : Run Nat := do
  if let some status := ← firstCount? arguments then
    modify fun state => { state with savedStatus := some status }
  throw .exit

def return_ (arguments : List String) : Run Nat := do
  match ← firstCount? arguments with
  | some status =>
      setStatus status
      throw (.back true)
  | none => throw (.back false)

/-- Leave or repeat loops, of which there may be fewer than are asked for. -/
def inLoops (interruption : Nat → Interruption) (arguments : List String) : Run Nat := do
  let count := (← firstCount? arguments).getD 1
  if count = 0 then fail (.badNumber (arguments.headD ""))
  let loops := min count (← get).loops
  if loops = 0 then return 0
  setStatus 0
  throw (interruption loops)

def shift (arguments : List String) : Run Nat := do
  let count := (← firstCount? arguments).getD 1
  if (← get).arguments.length < count then fail (.misuse "can't shift that many")
  modify fun state => { state with
    arguments := state.arguments.drop count, optionPlace := .first }
  return 0

def times : Run Nat := do
  print "0m0.000000s 0m0.000000s\n0m0.000000s 0m0.000000s\n"
  return 0

end ClockDiscipline.Shell.Builtin
