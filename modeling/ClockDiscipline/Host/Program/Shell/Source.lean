import ClockDiscipline.Host.Program.Shell.Token

/-!
A script that is being read, character by character and token by token. Where an alias is
met, its text is read instead; it is in use until the character behind it has been passed,
and an alias in use is not met again.
-/

namespace ClockDiscipline.Shell

structure AliasUse where
  name : String
  behind : Nat
  endsInBlank : Bool
  isOver : Bool
  deriving DecidableEq, Repr

structure Expectation where
  skipsLines : Bool
  mayBeReserved : Bool
  mayBeAlias : Bool
  isMark : Bool
  deriving DecidableEq, Repr

namespace Expectation

def plain : Expectation := ⟨false, false, false, false⟩

def command : Expectation := ⟨false, true, true, false⟩

def laterCommand : Expectation := ⟨true, true, true, false⟩

def laterWord : Expectation := ⟨true, true, false, false⟩

def mayAlias : Expectation := ⟨false, false, true, false⟩

def mark : Expectation := ⟨false, false, false, true⟩

end Expectation

inductive RedirectionHead where
  | file (descriptor : Nat) (kind : RedirectionKind)
  | document (descriptor : Nat) (stripsTabs : Bool)
  deriving DecidableEq, Repr

/-- A document that is read when the present line ends. -/
structure PendingDocument where
  number : Nat
  mark : String
  isExpanded : Bool
  stripsTabs : Bool
  deriving DecidableEq, Repr

structure Source where
  rest : List Char
  remaining : Nat
  line : Nat
  aliases : List (String × String)
  uses : List AliasUse
  expectation : Expectation
  token : Token
  isPushedBack : Bool
  word : Word
  isQuoted : Bool
  head : RedirectionHead
  pending : List PendingDocument
  documents : List (Nat × Document)
  nextDocument : Nat

structure LocatedFault where
  line : Nat
  fault : SyntaxFault
  deriving DecidableEq, Repr

abbrev Reading := StateT Source (Except LocatedFault)

namespace Source

def ofText (text : String) (line nextDocument : Nat) : Source where
  rest := text.toList
  remaining := text.length
  line
  aliases := []
  uses := []
  expectation := .plain
  token := .newline
  isPushedBack := false
  word := []
  isQuoted := false
  head := .file 0 .read
  pending := []
  documents := []
  nextDocument

def enough (source : Source) : Nat :=
  let aliases := source.aliases.foldl (fun size (_, text) => size + text.length + 1) 1
  4 * (source.remaining + 16) * aliases

def see (source : Source) (remaining : Nat) : Source :=
  if source.uses.isEmpty then source
  else
    let reached (use : AliasUse) : Bool := remaining ≤ use.behind && !use.isOver
    let mayBeAlias := source.uses.any fun use => reached use && use.endsInBlank
    { source with
      uses := (source.uses.filter (·.behind ≤ remaining)).map fun use =>
        { use with isOver := use.isOver || reached use }
      expectation.mayBeAlias := source.expectation.mayBeAlias || mayBeAlias }

def alias? (source : Source) (name : String) : Option String :=
  if source.uses.any (·.name = name) then none else source.aliases.lookup name

def expand (source : Source) (name text : String) : Source :=
  if text = "" then source
  else
    let endsInBlank := text.endsWith " " || text.endsWith "\t"
    { source with
      rest := text.toList ++ source.rest
      remaining := source.remaining + text.length
      uses := ⟨name, source.remaining, endsInBlank, false⟩ :: source.uses }

end Source

namespace Reading

def fail {α : Type} (fault : SyntaxFault) : Reading α := do
  throw ⟨(← get).line, fault⟩

def peek : Reading (Option Char) := do
  modify fun source => source.see source.remaining
  return (← get).rest.head?

def pass : Reading Unit :=
  modify fun source =>
    match source.rest with
    | [] => source
    | character :: rest =>
        { source with
          rest
          remaining := source.remaining - 1
          line := if character = '\n' then source.line + 1 else source.line }

def joinLines : (count : Nat) → Reading Unit
  | 0 => return
  | count + 1 => do
      if (← get).rest.take 2 = ['\\', '\n'] then
        pass
        pass
        joinLines count

def peekJoined : Reading (Option Char) := do
  if (← get).rest.head? = some '\\' then joinLines (← get).remaining
  peek

def passIf (character : Char) : Reading Bool := do
  if (← peekJoined) = some character then
    pass
    return true
  else return false

def takeWhile (property : Char → Bool) : (count : Nat) → (taken : String) → Reading String
  | 0, taken => return taken
  | count + 1, taken => do
      match ← peekJoined with
      | some character =>
          if property character then
            pass
            takeWhile property count (taken.push character)
          else return taken
      | none => return taken

end Reading

end ClockDiscipline.Shell
