import ClockDiscipline.Host.Program.Shell.Arguments
import ClockDiscipline.Host.Program.Shell.Listing
import ClockDiscipline.Host.Program.Shell.State

/-!
Variables of the shell. Some names mean something to the shell itself, which takes notice
when they are given a value.
-/

namespace ClockDiscipline.Shell

def orFail {α : Type} : Except Fault α → Run α
  | .ok value => return value
  | .error fault => fail fault

def usualSearchPath : String :=
  "/usr/local/sbin:/usr/local/bin:/usr/sbin:/usr/bin:/sbin:/bin"

namespace State

def valueOf? (state : State) (name : String) : Option String :=
  (state.bindings.lookup name).bind (·.value)

def searchPath (state : State) : String := (state.valueOf? "PATH").getD ""

def separators (state : State) : List Char := ((state.valueOf? "IFS").getD " \t\n").toList

def environment (state : State) : List (String × String) :=
  (Listing.byDrawer Listing.manyDrawers state.bindings).filterMap fun (name, entry) =>
    if entry.isExported then entry.value.map (name, ·) else none

end State

def notice (name value : String) : Run Unit := do
  if name = "OPTIND" then
    let index ← orFail (Arguments.count value)
    modify fun state => { state with optionPlace := ⟨max index 1, none⟩ }
  else if name = "PATH" then
    modify fun state => { state with tracked := [] }

/-- Give a variable a value, or take it away, and change its marks. The name is not looked
at. -/
def bind (name : String) (value : Option String) (mark : Variable → Variable) :
    Run Unit := do
  let state ← get
  let before := state.bindings.lookup name
  if before.any (·.isReadOnly) then fail (.readOnly name)
  let marked := mark ⟨value, state.hasOption "allexport", false, false⟩
  let isFixed := marked.isFixed || before.any (·.isFixed)
  if before.isSome then notice name (value.getD "")
  modify fun state => { state with
    bindings :=
      if value.isNone && !marked.isExported && !marked.isReadOnly && !isFixed then
        Table.erase name state.bindings
      else
        Table.put name
          ⟨value, marked.isExported || before.any (·.isExported), marked.isReadOnly,
            isFixed⟩
          state.bindings }

def checkName (name : String) : Run Unit := do
  if !isName name then fail (.badName name)

def assign (name value : String) : Run Unit := do
  checkName name
  bind name (some value) id

def unset (name : String) : Run Unit := do
  checkName name
  bind name none id

def bindMarked (name : String) (value : Option String) (mark : Variable → Variable) :
    Run Unit := do
  checkName name
  bind name value mark

/-! ## Hiding -/

def hide (entry : Hidden) : Run Unit :=
  modify fun state => { state with
    hidden := match state.hidden with
      | [] => []
      | inner :: outer => (entry :: inner) :: outer }

/-- Let a variable be one of the present piece of work only. It keeps its value unless it
gets another one. -/
def localize (name : String) (value : Option String) (isExported : Bool) : Run Unit := do
  let mark (entry : Variable) : Variable :=
    { entry with isExported := entry.isExported || isExported }
  match (← get).bindings.lookup name with
  | none =>
      let fixed (entry : Variable) : Variable := { mark entry with isFixed := true }
      if value.isSome then bind name value fixed else bindMarked name none fixed
      hide (.variable name none)
  | some entry =>
      modify fun state => { state with
        bindings := Table.put name { entry with isFixed := true } state.bindings }
      if value.isSome then bind name value mark
      hide (.variable name (some entry))

def giveBack : List Hidden → Run Unit
  | [] => return
  | .options chosen :: rest => do
      modify fun state => { state with options := chosen }
      giveBack rest
  | .variable name none :: rest => do
      modify fun state => { state with
        bindings := match state.bindings.lookup name with
          | some entry =>
              Table.put name
                { entry with isFixed := false, isReadOnly := false } state.bindings
          | none => state.bindings }
      bind name none id
      giveBack rest
  | .variable name (some entry) :: rest => do
      if let some value := entry.value then notice name value
      modify fun state => { state with bindings := Table.put name entry state.bindings }
      giveBack rest

def giveBackTo (depth : Nat) : Run Unit := do
  let { hidden, .. } ← get
  let inner := hidden.take (hidden.length - depth)
  modify fun state => { state with hidden := hidden.drop inner.length }
  giveBack inner.flatten

def givingBack {α : Type} (work : Run α) : Run α := do
  let depth := (← get).hidden.length
  modify fun state => { state with hidden := [] :: state.hidden }
  andThen work (giveBackTo depth)

end ClockDiscipline.Shell
