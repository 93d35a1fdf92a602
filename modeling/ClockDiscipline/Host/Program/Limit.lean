import ClockDiscipline.Host.Errno

/-!
Limits on what a process may use. A process may go up to its lower limit, which it can
move up to its upper one.
-/

namespace ClockDiscipline

structure Limit where
  lower : Option Nat
  upper : Option Nat
  deriving DecidableEq, Repr

structure Resource where
  letter : Char
  description : String
  unit : Nat
  usual : Limit
  deriving DecidableEq, Repr

namespace Resource

def unlimited : Limit := ⟨none, none⟩

def exactly (limit : Nat) : Limit := ⟨some limit, some limit⟩

def all : List Resource :=
  [⟨'t', "time(seconds)", 1, unlimited⟩, ⟨'f', "file(blocks)", 512, unlimited⟩,
    ⟨'d', "data(kbytes)", 1024, unlimited⟩,
    ⟨'s', "stack(kbytes)", 1024, ⟨some (8192 * 1024), none⟩⟩,
    ⟨'c', "coredump(blocks)", 512, ⟨some 0, none⟩⟩,
    ⟨'m', "memory(kbytes)", 1024, unlimited⟩,
    ⟨'l', "locked memory(kbytes)", 1024, exactly (8192 * 1024)⟩,
    ⟨'p', "process", 1, exactly 128619⟩, ⟨'n', "nofiles", 1, exactly 20000⟩,
    ⟨'v', "vmemory(kbytes)", 1024, unlimited⟩, ⟨'w', "locks", 1, unlimited⟩,
    ⟨'r', "rtprio", 1, exactly 0⟩]

def limit (resource : Resource) (changed : List (Char × Limit)) : Limit :=
  (changed.lookup resource.letter).getD resource.usual

end Resource

namespace Limit

def admits : (limit other : Option Nat) → Bool
  | none, _ => true
  | some _, none => false
  | some limit, some other => other ≤ limit

/-- A process may change its limits from one pair to another: the lower one stays below
the upper one, which only goes down. -/
def check (old new : Limit) : Except Errno Unit :=
  if !admits new.upper new.lower then .error .invalidArgument
  else if !admits old.upper new.upper then .error .operationNotPermitted
  else .ok ()

end Limit

end ClockDiscipline
