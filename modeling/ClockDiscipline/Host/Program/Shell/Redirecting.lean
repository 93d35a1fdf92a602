import ClockDiscipline.Host.Program.Shell.Expansion

/-!
Redirections: where descriptors lead while a command is run. All targets are known before
the first of them is opened.
-/

namespace ClockDiscipline.Shell

inductive Directed where
  | file (descriptor : Nat) (kind : RedirectionKind) (path : String)
  | duplicate (descriptor : Nat) (source : Option Nat)
  | document (descriptor number : Nat)
  deriving DecidableEq, Repr

def Directed.descriptor : Directed → Nat
  | file descriptor _ _ | duplicate descriptor _ | document descriptor _ => descriptor

def source (word : String) : Except Fault (Option Nat) :=
  match word.toList with
  | ['-'] => .ok none
  | [digit] =>
      if digit.isDigit then .ok (some (digit.toNat - '0'.toNat))
      else .error (.syntactic .badDescriptor)
  | _ => .error (.syntactic .badDescriptor)

def direct (substitute : Command → Run String) : List Redirection → Run (List Directed)
  | [] => return []
  | redirection :: rest => do
      let directed : Directed ← match redirection with
        | .file descriptor .duplicate target =>
            let word ← expandText substitute target
            pure (.duplicate descriptor (← orFail (source word)))
        | .file descriptor kind target =>
            pure (.file descriptor kind (← expandText substitute target))
        | .document descriptor number => pure (.document descriptor number)
      return directed :: (← direct substitute rest)

/-! ## Opening -/

def purpose (state : State) (kind : RedirectionKind) (path : String) : Opening.Purpose :=
  match kind with
  | .read | .duplicate => .read
  | .overwrite => .replace
  | .append => .append
  | .readWrite => .update
  | .write =>
      let isRegular := match state.files.lookup path with
        | .ok node => (node matches .file _) || (node matches .program)
        | .error _ => true
      if state.hasOption "noclobber" && isRegular then .create else .replace

def carryOut (substitute : Command → Run String) (directed : Directed) : Run Unit := do
  let state ← get
  match directed with
  | .file descriptor kind path =>
      match state.streams.openFile state.files descriptor
        (purpose state kind path) path with
      | .ok (streams, files) => set { state with streams, files }
      | .error cause =>
          fail (if kind = .read then .cannotOpen path cause else .cannotCreate path cause)
  | .duplicate descriptor none =>
      set { state with streams := state.streams.close descriptor }
  | .duplicate descriptor (some source) =>
      if source ≠ descriptor then
        match state.streams.duplicate source descriptor with
        | .ok streams => set { state with streams }
        | .error cause => fail (.descriptor source cause)
  | .document descriptor number =>
      let document := (state.documents.lookup number).getD ⟨false, []⟩
      let text ← expandDocument substitute document
      modify fun state => { state with
        streams := state.streams.add descriptor (.ofChannel .read (.pipe text none)) }

def leadBack (before : Streams) (descriptors : List Nat) : Run Unit :=
  modify fun state => { state with
    streams := descriptors.foldl
      (fun streams descriptor =>
        match before.descriptors.lookup descriptor with
        | some opening => streams.connect descriptor opening
        | none => streams.close descriptor)
      state.streams }

def openAll (substitute : Command → Run String) (directed : List Directed) : Run Bool :=
  ExceptT.mk do
    match ← (directed.forM (carryOut substitute)).run with
    | .ok () => return .ok true
    | .error .error => return .ok false
    | .error interruption => return .error interruption

/-- Do work while descriptors are redirected; nothing where that fails. They may be left
as they are. -/
def redirected {α : Type} (substitute : Command → Run String) (directed : List Directed)
    (isKept : Bool) (work : Run α) : Run (Option α) := do
  let before := (← get).streams
  andAlways
    (do
      if ← openAll substitute directed then return some (← work)
      else return none)
    (if isKept then return else leadBack before (directed.map (·.descriptor)))

end ClockDiscipline.Shell
