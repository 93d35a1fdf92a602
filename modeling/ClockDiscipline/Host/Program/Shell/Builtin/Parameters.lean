import ClockDiscipline.Host.Program.Shell.Variables

/-!
Commands that change variables, functions, options and the arguments of the script.
-/

namespace ClockDiscipline.Shell.Builtin

/-! ## Variables -/

def listVariables (word : String) (isListed : Variable → Bool) : Run Nat := do
  let listed := (Listing.byName (← get).bindings).filter (isListed ·.2)
  let line (name : String) (entry : Variable) : String :=
    (if word = "" then "" else word ++ " ") ++ name ++
      (match entry.value with
        | some value => "=" ++ Listing.quoted value
        | none => "") ++ "\n"
  print (String.join (listed.map fun (name, entry) => line name entry))
  return 0

def mark (word : String) (isMarked : Variable → Bool) (change : Variable → Variable)
    (arguments : List String) : Run Nat := do
  let (chosen, words) ← orFail (Arguments.takeOptions "p" arguments)
  if !chosen.isEmpty || words.isEmpty then return ← listVariables word isMarked
  for word in words do
    match splitAtEquals? word with
    | some (name, value) => bindMarked name (some value) change
    | none =>
        match (← get).bindings.lookup word with
        | some entry =>
            modify fun state => { state with
              bindings := Table.put word (change entry) state.bindings }
        | none => bindMarked word none change
  return 0

def unset (arguments : List String) : Run Nat := do
  let (chosen, words) ← orFail (Arguments.takeOptions "vf" arguments)
  let isFunction := chosen.getLast?.any (·.letter = 'f')
  for word in words do
    if isFunction then
      modify fun state => { state with functions := Table.erase word state.functions }
    else Shell.unset word
  return 0

/-- Hide variables, or the options where a dash stands for them, until the function
returns. -/
def local_ (arguments : List String) : Run Nat := do
  if (← get).hidden.isEmpty then fail (.misuse "not in a function")
  for word in arguments do
    if word = "-" then hide (.options (← get).options)
    else
      match splitAtEquals? word with
      | some (name, value) => localize name (some value) false
      | none => localize word none false
  return 0

/-! ## Options and arguments -/

/-- No terminal is there for control of jobs. A part of the shell does not look for
one. -/
def withoutTerminal (before : List String) : Run Unit := do
  let state ← get
  if state.hasOption "monitor" && !before.contains "monitor" && state.isWhole then
    warn "can't access tty; job control turned off"
    modify fun state => { state with options := state.options.filter (· ≠ "monitor") }

def setParameters (arguments : List String) : Run Nat := do
  if arguments.isEmpty then return ← listVariables "" (·.value.isSome)
  let before := (← get).options
  let options := Options.ofWords false before arguments
  modify fun state => { state with options := options.chosen }
  print options.listed
  if let some fault := options.fault then fail fault
  withoutTerminal before
  if options.isEnded || !options.rest.isEmpty then
    modify fun state => { state with arguments := options.rest, optionPlace := .first }
  return 0

/-! ## Options among arguments -/

structure Found where
  letter : Char
  argument : Option String
  complaint : String
  isOver : Bool
  place : OptionPlace
  deriving DecidableEq, Repr

/-- Look at an option behind the letters of a word that have been read. `index` is the
number of the next word, and `rest` are the letters behind the option. -/
def readOption (allowed : List Char) (words : List String) (index : Nat) (letter : Char)
    (rest : List Char) : Found :=
  let isSilent := allowed.head? = some ':'
  let word := words.getD (index - 2) ""
  let behind : OptionPlace := ⟨index, some (word.length - rest.length)⟩
  match Arguments.allowed? allowed letter with
  | none =>
      if isSilent then ⟨'?', some (String.singleton letter), "", false, behind⟩
      else ⟨'?', none, s!"Illegal option -{letter}\n", false, behind⟩
  | some false => ⟨letter, some "", "", false, behind⟩
  | some true =>
      if !rest.isEmpty then ⟨letter, some (String.ofList rest), "", false, ⟨index, none⟩⟩
      else
        match words[index - 1]? with
        | some argument => ⟨letter, some argument, "", false, ⟨index + 1, none⟩⟩
        | none =>
            if isSilent then
              ⟨':', some (String.singleton letter), "", false, ⟨index, none⟩⟩
            else ⟨'?', none, s!"No arg for -{letter} option\n", false, ⟨index, none⟩⟩

def nextOption (allowed : List Char) (words : List String) (place : OptionPlace) :
    Found :=
  let place := if words.length + 1 < place.index then .first else place
  let unread : List Char := match place.offset with
    | some offset =>
        if place.index ≤ 1 then []
        else (words.getD (place.index - 2) "").toList.drop offset
    | none => []
  match unread with
  | letter :: rest => readOption allowed words place.index letter rest
  | [] =>
      match (words[place.index - 1]?).map String.toList with
      | some ['-', '-'] => ⟨'?', none, "", true, ⟨place.index + 1, none⟩⟩
      | some ('-' :: letter :: rest) =>
          readOption allowed words (place.index + 1) letter rest
      | _ => ⟨'?', none, "", true, ⟨place.index, none⟩⟩

def getopts (arguments : List String) : Run Nat := do
  match arguments with
  | allowed :: name :: words =>
      let state ← get
      let words := if words.isEmpty then state.arguments else words
      let found := nextOption allowed.toList words state.optionPlace
      let _ ← write 2 found.complaint
      if !found.isOver then
        match found.argument with
        | some argument => assign "OPTARG" argument
        | none => Shell.unset "OPTARG"
      assign "OPTIND" (toString found.place.index)
      -- A name that is none lets the next call begin again.
      modify fun state => { state with optionPlace := .first }
      assign name (String.singleton found.letter)
      modify fun state => { state with optionPlace := found.place }
      return if found.isOver then 1 else 0
  | _ => fail (.misuse "Usage: getopts optstring var [arg...]")

end ClockDiscipline.Shell.Builtin
