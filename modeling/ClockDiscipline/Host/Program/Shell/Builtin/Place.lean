import ClockDiscipline.Host.Program.Shell.Variables

/-!
Commands about what surrounds the shell: the working directory, the permissions of new
files, and limits on what it may use.

The shell knows the working directory by the names that led to it, which may differ from
its place where links lie on the way.
-/

namespace ClockDiscipline.Shell.Builtin

/-! ## The working directory -/

def asksForPlace (chosen : List Arguments.Chosen) : Bool :=
  chosen.getLast?.any (·.letter = 'P')

def stepAlong (names : List String) : List String → List String
  | [] => names
  | "" :: rest | "." :: rest => stepAlong names rest
  | ".." :: rest => stepAlong names.tail rest
  | name :: rest => stepAlong (name :: names) rest

/-- A directory by the names that lead to it, where a path is followed from another one.
Exactly two slashes at the front are kept. -/
def follow (directory path : String) : String :=
  let isDouble (path : String) : Bool := path.startsWith "//" && !path.startsWith "///"
  let (root, names) :=
    if path.startsWith "/" then (if isDouble path then "//" else "/", [])
    else (if directory.startsWith "//" then "//" else "/",
      (stepAlong [] (directory.splitOn "/")))
  root ++ "/".intercalate (stepAlong names (path.splitOn "/")).reverse

example : stepAlong ["usr"] ["..", "a", ".", "", "b"] = ["b", "a"] := by decide +kernel

def goTo (byPlace : Bool) (path : String) : Run Bool := do
  let state ← get
  let target := if byPlace then path else follow state.directory path
  match state.files.resolve target with
  | .error _ => return false
  | .ok walk =>
      if !walk.node.any Node.isDirectory then return false
      let directory := if byPlace then Program.placeText walk.place else target
      let old := state.directory
      let stale (found : Tracked) : Tracked := { found with isStale := true }
      set { state with
        files := { state.files with workingDirectory := walk.place }
        tracked := state.tracked.map fun (name, found) => (name, stale found) }
      bind "OLDPWD" (some old) ({ · with isExported := true })
      modify fun state => { state with directory }
      bind "PWD" (some directory) ({ · with isExported := true })
      return true

def isAnchored (path : String) : Bool :=
  path.startsWith "/" || ["", ".", ".."].contains ((path.splitOn "/").headD "")

def locate? (files : FileSystem) (path : String) (directories : List String) :
    Option (String × Bool) :=
  directories.findSome? fun directory =>
    let full := if directory = "" then path else directory ++ "/" ++ path
    if files.isDirectory full then some (full, directory ≠ "") else none

def changeDirectory (arguments : List String) : Run Nat := do
  let (chosen, words) ← orFail (Arguments.takeOptions "LP" arguments)
  let state ← get
  let isBack := words.head? = some "-"
  let path := match words.head? with
    | none => (state.valueOf? "HOME").getD ""
    | some word => if isBack then (state.valueOf? "OLDPWD").getD "" else word
  let isOpen := path = "" || !isAnchored path
  let searched := if path = "" then "." else path
  let located? := match state.valueOf? "CDPATH" with
    | some directories =>
        if isOpen then locate? state.files searched (directories.splitOn ":") else none
    | none => none
  let (target, isFound) := located?.getD (searched, false)
  if ← goTo (asksForPlace chosen) target then
    if isBack || isFound then print ((← get).directory ++ "\n")
    return 0
  else fail (.misuse ("can't cd to " ++ searched))

def printDirectory (arguments : List String) : Run Nat := do
  let (chosen, _) ← orFail (Arguments.takeOptions "LP" arguments)
  let state ← get
  print ((if asksForPlace chosen then Program.placeText state.files.workingDirectory
    else state.directory) ++ "\n")
  return 0

/-! ## Permissions -/

def allPermissions : Nat := 0x1ff

def userBits? : Char → Option Nat
  | 'u' => some 0x1c0
  | 'g' => some 0x38
  | 'o' => some 0x7
  | 'a' => some allPermissions
  | _ => none

def forAll (bits : Nat) : Nat := bits * 0x49

def permissionBits? (given : Nat) : Char → Option Nat
  | 'r' => some (forAll 4)
  | 'w' => some (forAll 2)
  | 'x' => some (forAll 1)
  | 'X' => some (if given &&& forAll 1 = 0 then 0 else forAll 1)
  | 's' => some 0
  | 'u' => some (forAll (given >>> 6 &&& 7))
  | 'g' => some (forAll (given >>> 3 &&& 7))
  | 'o' => some (forAll (given &&& 7))
  | _ => none

def changePermissions (operator : Char) (users bits permissions : Nat) : Nat :=
  let others := permissions &&& (allPermissions ^^^ users)
  let own := permissions &&& users
  let bits := bits &&& users
  match operator with
  | '+' => permissions ||| bits
  | '-' => others ||| (own &&& (allPermissions ^^^ bits))
  | _ => others ||| bits

/-- Permissions that change as words tell, behind those that are `given` at first. What is
read next may be the beginning of a clause. The fuel bounds the number of operators and
clauses. -/
def readPermissions (given : Nat) :
    (fuel : Nat) → (users : Option Nat) → (permissions : Nat) →
    List Char → Option Nat
  | 0, _, _, _ => none
  | fuel + 1, none, permissions, characters =>
      let users := characters.takeWhile fun letter => (userBits? letter).isSome
      let rest := characters.drop users.length
      let bits := users.foldl (fun bits user => bits ||| (userBits? user).getD 0) 0
      if rest.isEmpty then none
      else
        readPermissions given fuel (some (if users.isEmpty then allPermissions else bits))
          permissions rest
  | fuel + 1, some users, permissions, characters =>
      match characters with
      | operator :: rest =>
          if "+-=".toList.contains operator then
            let letters := rest.takeWhile fun letter =>
              (permissionBits? given letter).isSome
            let bits := letters.foldl
              (fun bits letter => bits ||| (permissionBits? given letter).getD 0) 0
            let permissions := changePermissions operator users bits permissions
            match rest.drop letters.length with
            | [] => some permissions
            | ',' :: rest => readPermissions given fuel none permissions rest
            | rest => readPermissions given fuel (some users) permissions rest
          else none
      | [] => some permissions

def maskText (mask : Nat) : String :=
  let digits := String.ofList (Nat.toDigits 8 mask)
  "".pushn '0' (4 - digits.length) ++ digits

def permissionsText (mask : Nat) : String :=
  let permitted (shift : Nat) : String := String.ofList <|
    [(4, 'r'), (2, 'w'), (1, 'x')].filterMap fun (bit, letter) =>
      if mask >>> shift &&& bit = 0 then some letter else none
  s!"u={permitted 6},g={permitted 3},o={permitted 0}"

def mask (arguments : List String) : Run Nat := do
  let (chosen, words) ← orFail (Arguments.takeOptions "S" arguments)
  let { mask, .. } ← get
  match words with
  | [] =>
      print ((if chosen.isEmpty then maskText mask else permissionsText mask) ++ "\n")
      return 0
  | word :: _ =>
      let changed ← if word.toList.head?.any Char.isDigit then
          if !word.toList.all Printing.isOctal then fail (.badNumber word)
          else pure (Number.ofDigits 8 word.toList &&& allPermissions)
        else do
          let given := allPermissions ^^^ mask
          match if word = "" then some given
            else readPermissions given (2 * word.length + 2) none given word.toList with
          | some permissions => pure (allPermissions ^^^ permissions)
          | none => fail (.misuse ("Illegal mode: " ++ word))
      modify fun state => { state with mask := changed }
      return 0

example : readPermissions 0x1ed 9 none 0x1ed "u=rx,g-x".toList = some 0x165 := by
  decide +kernel

/-! ## Limits -/

def limitText (resource : Resource) (limit : Option Nat) : String :=
  match limit with
  | none => "unlimited"
  | some limit => toString (limit / resource.unit)

def readLimit (resource : Resource) (word : String) : Except Fault (Option Nat) :=
  if word = "unlimited" then .ok none
  else if word.toList.all Char.isDigit then
    .ok (some (Number.ofDigits 10 word.toList * resource.unit % Number.range))
  else .error (.misuse "bad number")

def limit (arguments : List String) : Run Nat := do
  let letters := String.ofList (Resource.all.map (·.letter))
  let (chosen, words) ← orFail (Arguments.takeOptions ("HSa" ++ letters) arguments)
  let side := (chosen.filter fun option => "HS".toList.contains option.letter).getLast?
  let isUpper := side.any (·.letter = 'H')
  let isLower := side.any (·.letter = 'S')
  let isAll := chosen.any (·.letter = 'a')
  let named := (chosen.filter fun option => !"HSa".toList.contains option.letter).getLast?
  let letter := (named.map (·.letter)).getD 'f'
  let { limits, .. } ← get
  let told (resource : Resource) : String :=
    let limit := resource.limit limits
    limitText resource (if isUpper then limit.upper else limit.lower)
  match Resource.all.find? (·.letter = letter), words with
  | none, _ => return 0
  | some resource, [] =>
      let line (resource : Resource) : String :=
        resource.description.pushn ' ' (20 - resource.description.length) ++ " " ++
          told resource ++ "\n"
      print (if isAll then String.join (Resource.all.map line) else told resource ++ "\n")
      return 0
  | some resource, word :: more =>
      if isAll || !more.isEmpty then fail (.misuse "too many arguments")
      let value ← orFail (readLimit resource word)
      let old := resource.limit limits
      let new : Limit :=
        ⟨if isUpper then old.lower else value, if isLower then old.upper else value⟩
      match old.check new with
      | .ok () =>
          modify fun state => { state with
            limits := (letter, new) :: limits.filter (·.1 ≠ letter) }
          return 0
      | .error cause =>
          fail (.misuse ("error setting limit (" ++ cause.description ++ ")"))

end ClockDiscipline.Shell.Builtin
