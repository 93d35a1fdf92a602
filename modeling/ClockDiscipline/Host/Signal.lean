/-!
Signals that the host sends to processes, and the ways in which a process ends.
-/

namespace ClockDiscipline

namespace Signal

def names : List String :=
  ["HUP", "INT", "QUIT", "ILL", "TRAP", "ABRT", "BUS", "FPE", "KILL", "USR1", "SEGV",
    "USR2", "PIPE", "ALRM", "TERM", "STKFLT", "CHLD", "CONT", "STOP", "TSTP", "TTIN",
    "TTOU", "URG", "XCPU", "XFSZ", "VTALRM", "PROF", "WINCH", "IO", "PWR", "SYS"]

def firstFree : Nat := 34

def last : Nat := 64

def name? (number : Nat) : Option String :=
  if number = 0 then none else names[number - 1]?

def interrupt : Nat := 2
def quit : Nat := 3
def arithmetic : Nat := 8
def kill : Nat := 9
def memory : Nat := 11
def pipe : Nat := 13
def terminate : Nat := 15
def child : Nat := 17
def stop : Nat := 19

/-- Signals that end a process which does not expect them. The others let it go on or halt
it. -/
def isDeadly (number : Nat) : Bool :=
  0 < number && number ≤ last && !([17, 18, 19, 20, 21, 22, 23, 28].contains number)

def descriptions : List String :=
  ["Hangup", "Interrupt", "Quit", "Illegal instruction", "Trace/breakpoint trap",
    "Aborted", "Bus error", "Floating point exception", "Killed", "User defined signal 1",
    "Segmentation fault", "User defined signal 2", "Broken pipe", "Alarm clock",
    "Terminated", "Stack fault", "Child exited", "Continued", "Stopped (signal)",
    "Stopped", "Stopped (tty input)", "Stopped (tty output)", "Urgent I/O condition",
    "CPU time limit exceeded", "File size limit exceeded", "Virtual timer expired",
    "Profiling timer expired", "Window changed", "I/O possible", "Power failure",
    "Bad system call"]

def description (number : Nat) : String :=
  match if number = 0 then none else descriptions[number - 1]? with
  | some text => text
  | none =>
      if firstFree ≤ number ∧ number ≤ last then s!"Real-time signal {number - firstFree}"
      else s!"Unknown signal {number}"

example : names.length = descriptions.length ∧ name? kill = some "KILL" ∧
    description arithmetic = "Floating point exception" := by decide +kernel

end Signal

inductive ExitStatus where
  | exited (code : Nat)
  | signalled (number : Nat)
  deriving DecidableEq, Repr

namespace ExitStatus

def text : ExitStatus → String
  | exited code => s!"exit status: {code}"
  | signalled number =>
      match Signal.name? number with
      | some name => s!"signal: {number} (SIG{name})"
      | none => s!"signal: {number}"

def code : ExitStatus → Nat
  | exited code => code
  | signalled number => 128 + number

end ExitStatus

end ClockDiscipline
