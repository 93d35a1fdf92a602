import ClockDiscipline.Host.Program.Shell.Builtin.Names
import ClockDiscipline.Host.Program.Shell.Variables

/-!
Commands by their names: functions, commands of the shell's own, programs that are
searched for, and aliases for the beginnings of commands.
-/

namespace ClockDiscipline.Shell

/-! ## Finding -/

inductive Target where
  | function (body : Command)
  | builtin
  | program (path : String)
  | missing (cause : Errno)

def searchedPaths (searchPath name : String) : List String :=
  (searchPath.splitOn ":").map fun directory =>
    if directory = "" then name else directory ++ "/" ++ name

def searchProgram (files : FileSystem) (cause : Errno) : List String → Except Errno String
  | [] => .error cause
  | path :: rest =>
      match files.resolve path with
      | .error (.malformed _) => searchProgram files cause rest
      | .error (.errno other) =>
          let isMissing := other = .noSuchEntry ∨ other = .notADirectory
          searchProgram files (if isMissing then cause else other) rest
      | .ok walk =>
          match walk.node with
          | some .program => .ok path
          | some _ => searchProgram files .permissionDenied rest
          | none => searchProgram files cause rest

/-- Find what a name leads to. A program that is found is tracked, unless it is searched
in other places than usual. -/
def findCommand (hasFunctions : Bool) (elsewhere : Option String) (name : String) :
    Run Target := do
  let state ← get
  if name.toList.contains '/' then return .program name
  match if hasFunctions then state.functions.lookup name else none with
  | some body => return .function body
  | none =>
      let tracked? := (state.tracked.lookup name).filter fun found =>
        elsewhere.isNone && !found.isStale
      if let some found := tracked? then return .program found.path
      if Builtin.isKnown name then return .builtin
      let searchPath := elsewhere.getD state.searchPath
      match searchProgram state.files .noSuchEntry (searchedPaths searchPath name) with
      | .ok path =>
          if elsewhere.isNone then
            set { state with tracked := Table.put name ⟨path, false⟩ state.tracked }
          return .program path
      | .error cause =>
          if elsewhere.isNone then
            set { state with tracked := Table.erase name state.tracked }
          return .missing cause

namespace Builtin

/-! ## Telling -/

inductive Telling where
  | brief
  | verbose
  deriving DecidableEq, Repr

def aliasText (name value : String) : String := name ++ "=" ++ Listing.quoted value

/-- Tell what a name leads to. The status is 127 if that is nothing. -/
def tellCommand (telling : Telling) (elsewhere : Option String) (name : String) :
    Run Nat := do
  let tell (verbose brief : String) : Run Nat := do
    print ((if telling = .verbose then name ++ verbose else brief) ++ "\n")
    return 0
  let missing : Run Nat := do
    if telling = .verbose then print (name ++ ": not found\n")
    return 127
  let state ← get
  if reservedWords.contains name then tell " is a shell keyword" name
  else
    match state.aliases.lookup name with
    | some value => tell (" is an alias for " ++ value) ("alias " ++ aliasText name value)
    | none =>
        let tracked? := if elsewhere.isNone then state.tracked.lookup name else none
        match tracked? with
        | some found => tell (" is a tracked alias for " ++ found.path) found.path
        | none =>
            match ← findCommand true elsewhere name with
            | .function _ => tell " is a shell function" name
            | .builtin =>
                let kind :=
                  if isSpecial name then "special shell builtin" else "shell builtin"
                tell (" is a " ++ kind) name
            | .program path =>
                if path ≠ name || state.files.pathExists path then
                  tell (" is " ++ path) path
                else missing
            | .missing _ => missing

def tellCommands : List String → Run Nat
  | [] => return 0
  | name :: rest => do
      let status ← tellCommand .verbose none name
      return status ||| (← tellCommands rest)

def command (arguments : List String) : Run Nat := do
  let (chosen, words) ← orFail (Arguments.takeOptions "pvV" arguments)
  let has (letter : Char) : Bool := chosen.any (·.letter = letter)
  match words with
  | name :: _ =>
      if has 'v' || has 'V' then
        tellCommand (if has 'V' then .verbose else .brief)
          (if has 'p' then some usualSearchPath else none) name
      else return 0
  | [] => return 0

/-! ## Tracking -/

def hash (arguments : List String) : Run Nat := do
  let (chosen, words) ← orFail (Arguments.takeOptions "r" arguments)
  if !chosen.isEmpty then
    modify fun state => { state with tracked := [] }
    return 0
  if words.isEmpty then
    let listed := Listing.byDrawer Listing.commandDrawers (← get).tracked
    print (String.join (listed.map fun (_, found) =>
      found.path ++ (if found.isStale then "*" else "") ++ "\n"))
    return 0
  let mut status := 0
  for word in words do
    modify fun state => { state with tracked := Table.erase word state.tracked }
    if let .missing cause := ← findCommand true none word then
      warn (Fault.cannotRun word cause).message
      status := 1
  return status

/-! ## Aliases -/

def nameCommands (arguments : List String) : Run Nat := do
  if arguments.isEmpty then
    let listed := Listing.byDrawer Listing.manyDrawers (← get).aliases
    print (String.join (listed.map fun (name, value) => aliasText name value ++ "\n"))
    return 0
  let mut status := 0
  for word in arguments do
    let front := (word.toList.drop 1).takeWhile (· ≠ '=')
    let name := (word.take (front.length + 1)).toString
    match (word.drop (front.length + 1)).toString.toList with
    | _ :: value =>
        modify fun state => { state with
          aliases := Table.put name (String.ofList value) state.aliases }
    | [] =>
        match (← get).aliases.lookup word with
        | some value => print (aliasText word value ++ "\n")
        | none =>
            let _ ← write 2 s!"alias: {word} not found\n"
            status := 1
  return status

def forgetNames (arguments : List String) : Run Nat := do
  let (chosen, words) ← orFail (Arguments.takeOptions "a" arguments)
  if !chosen.isEmpty then
    modify fun state => { state with aliases := [] }
    return 0
  let mut status := 0
  for word in words do
    if ((← get).aliases.lookup word).isSome then
      modify fun state => { state with aliases := Table.erase word state.aliases }
    else
      let _ ← write 2 s!"unalias: {word} not found\n"
      status := 1
  return status

end Builtin

end ClockDiscipline.Shell
