import ClockDiscipline.Host.Program.Shell.Builtin.Commands
import ClockDiscipline.Host.Program.Shell.Builtin.Control
import ClockDiscipline.Host.Program.Shell.Builtin.Input
import ClockDiscipline.Host.Program.Shell.Builtin.Parameters
import ClockDiscipline.Host.Program.Shell.Builtin.Place
import ClockDiscipline.Host.Program.Shell.Builtin.Signals
import ClockDiscipline.Host.Program.Shell.Condition

/-!
Commands that the shell carries out itself and that run no other commands, by their names.
Each gives a status.
-/

namespace ClockDiscipline.Shell.Builtin

def condition (words : List String) : Run Nat := do
  return if ← orFail (Condition.evaluate (← get).files words) then 0 else 1

def bracketed (arguments : List String) : Run Nat := do
  if arguments.getLast? ≠ some "]" then fail (.misuse "missing ]")
  condition arguments.dropLast

def find? (name : String) : Option (List String → Run Nat) :=
  match name with
  | ":" | "true" => some fun _ => return 0
  | "[" => some bracketed
  | "alias" => some nameCommands
  | "bg" | "fg" => some resume
  | "break" => some (inLoops .leave)
  | "cd" | "chdir" => some changeDirectory
  | "command" => some command
  | "continue" => some (inLoops .again)
  | "echo" => some echo
  | "exit" => some exit
  | "export" => some (mark "export" (·.isExported) ({ · with isExported := true }))
  | "false" => some fun _ => return 1
  | "getopts" => some getopts
  | "hash" => some hash
  | "jobs" => some jobs
  | "kill" => some kill
  | "local" => some local_
  | "printf" => some printf
  | "pwd" => some printDirectory
  | "read" => some read
  | "readonly" => some (mark "readonly" (·.isReadOnly) ({ · with isReadOnly := true }))
  | "return" => some return_
  | "set" => some setParameters
  | "shift" => some shift
  | "test" => some condition
  | "times" => some fun _ => times
  | "trap" => some trap
  | "type" => some tellCommands
  | "ulimit" => some limit
  | "umask" => some mask
  | "unalias" => some forgetNames
  | "unset" => some unset
  | "wait" => some wait
  | _ => none

end ClockDiscipline.Shell.Builtin
