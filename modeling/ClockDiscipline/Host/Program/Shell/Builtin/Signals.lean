import ClockDiscipline.Host.Program.Shell.Builtin.Jobs

/-!
Commands that send signals and let scripts handle them.
-/

namespace ClockDiscipline.Shell.Builtin

/-! ## Names -/

/-- A signal as the shell calls it. Some have no name and are called by their numbers;
those that programs use as they like are counted from both ends. -/
def signalName (signal : Nat) : String :=
  let middle := (Signal.firstFree + Signal.last) / 2
  if signal = 0 then "EXIT"
  else if signal = Signal.firstFree then "RTMIN"
  else if signal = Signal.last then "RTMAX"
  else if Signal.firstFree < signal ∧ signal ≤ middle then
    s!"RTMIN+{signal - Signal.firstFree}"
  else if middle < signal ∧ signal < Signal.last then s!"RTMAX-{Signal.last - signal}"
  else
    match Signal.name? signal with
    | some name => if name = "STKFLT" then toString signal else name
    | none => toString signal

def signalOfNumber? (word : String) : Option Nat :=
  (Arguments.digits? word).filter (· ≤ Signal.last)

def signal? (isEndAllowed : Bool) (word : String) : Option Nat :=
  match signalOfNumber? word with
  | some signal => some signal
  | none =>
      let upper := word.toUpper
      (List.range (Signal.last + 1)).find? fun signal =>
        (isEndAllowed || signal ≠ 0) && signalName signal = upper

example :
    signalName 49 = "RTMIN+15" ∧ signalName 50 = "RTMAX-14" ∧ signalName 16 = "16" := by
  decide +kernel

/-! ## Sending -/

def sendTo (signal process : Nat) : Run Bool := do
  let state ← get
  if process = state.number then
    receive signal
    return true
  else if state.ancestors.contains process then
    set { state with sent := state.sent ++ [(process, signal)] }
    return true
  else
    match state.jobs.find? fun job => job.process = process && !job.isOver with
    | none => return false
    | some job =>
        if Signal.isDeadly signal && !job.ignored.contains signal then
          let finish := min job.finish (state.clock + leastTime)
          let ended : Job := { job with status := .signalled signal, finish }
          let replace (other : Job) : Job :=
            if other.slot = job.slot then ended else other
          set { state with jobs := state.jobs.map replace }
        return true

/-- The process that a word names; nothing for a group of processes, which cannot be
met. -/
def process? (word : String) : Run (Option Nat) := do
  match word.toList with
  | '%' :: _ =>
      let _ ← findJob false (some word)
      return none
  | '-' :: rest =>
      let _ ← orFail (Arguments.count (String.ofList rest))
      return none
  | _ => return some (← orFail (Arguments.count word))

def sendToAll (signal : Nat) : List String → Run Nat
  | [] => return 0
  | word :: rest => do
      let isSent ← match ← process? word with
        | some process => sendTo signal process
        | none => pure false
      unless isSent do warn (Errno.noSuchProcess.description ++ "\n")
      let status ← sendToAll signal rest
      return if isSent then status else 1

def killUsage : String :=
  "Usage: kill [-s sigspec | -signum | -sigspec] [pid | job]... or\nkill -l [exitstatus]"

def tellSignals : List String → Run Nat
  | [] => do
      let names :=
        (List.range Signal.last).map fun index => signalName (index + 1) ++ "\n"
      print ("0\n" ++ String.join names)
      return 0
  | word :: _ => do
      let number ← orFail (Arguments.count word)
      let signal := if 128 < number then number - 128 else number
      if signal = 0 ∨ Signal.last < signal then
        fail (.misuse ("invalid signal number or exit status: " ++ word))
      print (signalName signal ++ "\n")
      return 0

def requestedSignal (chosen : List Arguments.Chosen) : Run (Option Nat) := do
  let mut signal := none
  for option in chosen do
    if let some name := option.argument then
      match signal? false name with
      | some found => signal := some found
      | none => fail (.misuse ("invalid signal number or name: " ++ name))
  return signal

def kill (arguments : List String) : Run Nat := do
  let usage : Run Nat := fail (.misuse killUsage)
  let send (signal : Nat) (words : List String) : Run Nat :=
    if words.isEmpty then usage else sendToAll signal words
  match arguments with
  | [] => usage
  | first :: rest =>
      if !first.startsWith "-" then send Signal.terminate arguments
      else
        match signal? false (first.drop 1).toString with
        | some signal => send signal rest
        | none =>
            let (chosen, words) ← orFail (Arguments.takeOptions "ls:" arguments)
            let signal ← requestedSignal chosen
            if chosen.any (·.letter = 'l') then
              if signal.isSome && !words.isEmpty then usage else tellSignals words
            else send (signal.getD Signal.terminate) words

/-! ## Handling -/

def handle (script : Option String) (signal : Nat) : Run Unit :=
  modify fun state => { state with
    traps := state.traps.filter (·.1 ≠ signal) ++ (script.map (signal, ·)).toList }

def handleAll (script : Option String) : List String → Run Nat
  | [] => return 0
  | word :: rest => do
      match signal? true word with
      | none =>
          let _ ← write 2 s!"trap: {word}: bad trap\n"
          return 1
      | some signal =>
          handle script signal
          handleAll script rest

def trap (arguments : List String) : Run Nat := do
  let (_, words) ← orFail (Arguments.takeOptions "" arguments)
  match words with
  | [] =>
      let { traps, .. } ← get
      for signal in List.range (Signal.last + 1) do
        if let some script := traps.lookup signal then
          print s!"trap -- {Listing.quoted script} {signalName signal}\n"
      return 0
  | [word] => handleAll none [word]
  | first :: rest =>
      if (signalOfNumber? first).isSome then handleAll none words
      else handleAll (if first = "-" then none else some first) rest

end ClockDiscipline.Shell.Builtin
