/-!
Names of the commands that the shell carries out itself. An error in a special one ends
the shell, its assignments last, and no function can take its name.
-/

namespace ClockDiscipline.Shell.Builtin

def specialNames : List String :=
  [".", ":", "break", "continue", "eval", "exec", "exit", "export", "local", "readonly",
    "return", "set", "shift", "times", "trap", "unset"]

def otherNames : List String :=
  ["[", "alias", "bg", "cd", "chdir", "command", "echo", "false", "fg", "getopts", "hash",
    "jobs", "kill", "printf", "pwd", "read", "test", "true", "type", "ulimit", "umask",
    "unalias", "wait"]

/-- Commands whose arguments may be assignments, which are not cut into fields. -/
def assigningNames : List String := ["alias", "export", "local", "readonly"]

def isSpecial (name : String) : Bool := specialNames.contains name

def isKnown (name : String) : Bool := isSpecial name || otherNames.contains name

end ClockDiscipline.Shell.Builtin
