import ClockDiscipline.Host.Program.Shell.Builtin.Names
import ClockDiscipline.Host.Program.Shell.Reader.Token

/-!
Reading commands. A line of a script holds a list of commands, and a command may go on
over several lines.
-/

namespace ClockDiscipline.Shell

namespace Reading

inductive Place where
  | line
  | inside
  | optional
  deriving DecidableEq, Repr

def inBackground (line : Nat) : Command → Command
  | .redirected line command redirections => .background line command redirections
  | command => .background line command []

def readTarget (commands : Substituted) : Reading Redirection := do
  match (← get).head with
  | .file descriptor kind =>
      if (← readToken commands) ≠ .word then refuse none
      return .file descriptor kind (← get).word
  | .document descriptor stripsTabs =>
      expect .mark
      if (← readToken commands) ≠ .word then refuse none
      let source ← get
      let mark := String.join <| source.word.map fun
        | .text _ text => text
        | _ => ""
      let number := source.nextDocument
      let announced : PendingDocument := ⟨number, mark, !source.isQuoted, stripsTabs⟩
      set { source with
        nextDocument := number + 1
        pending := source.pending ++ [announced] }
      return .document descriptor number

def readRedirections (commands : Substituted) : (count : Nat) → List Redirection →
    Reading (List Redirection)
  | 0, redirections => return redirections
  | count + 1, redirections => do
      if (← readToken commands) = .redirection then
        let redirection ← readTarget commands
        readRedirections commands count (redirections ++ [redirection])
      else
        pushBack
        return redirections

def readWords (commands : Substituted) : (count : Nat) → List Word → Reading (List Word)
  | 0, words => return words
  | count + 1, words => do
      if (← readToken commands) = .word then
        readWords commands count ((← get).word :: words)
      else return words

def readPatterns (commands : Substituted) :
    (count : Nat) → List Word → Reading (List Word)
  | 0, patterns => return patterns.reverse
  | count + 1, patterns => do
      let patterns := (← get).word :: patterns
      if (← readToken commands) = .bar then
        let _ ← readToken commands
        readPatterns commands count patterns
      else
        if (← get).token ≠ .closing then refuse (some .closing)
        return patterns.reverse

def demand (commands : Substituted) (token : Token) : Reading Unit := do
  if (← readToken commands) ≠ token then refuse (some token)

structure Simple where
  line : Nat
  assignments : List (String × Word)
  words : List Word
  redirections : List Redirection

def Simple.command (simple : Simple) : Command :=
  .simple simple.line simple.assignments.reverse simple.words.reverse
    simple.redirections.reverse

mutual

def substituted : (fuel : Nat) → Substituted
  | 0 => ⟨return none, return none⟩
  | fuel + 1 => {
      bare := readList fuel .optional none
      enclosed := do
        let body ← readList fuel .optional none
        demand (substituted fuel) .closing
        omitDocuments
        return body }

def readList : (fuel : Nat) → Place → Option Command → Reading (Option Command)
  | 0, _, before => return before
  | fuel + 1, place, before => do
      let commands := substituted fuel
      let atEnd (list : Option Command) : Reading (Option Command) := do
        readDocuments commands
        let _ ← give .theEnd
        pushBack
        return list
      expect (if place = .line then .command else .laterCommand)
      match ← readToken commands with
      | .newline =>
          readDocuments commands
          return before
      | .theEnd => atEnd before
      | token =>
          pushBack
          if place = .optional ∧ token.endsList then return before
          else
            let command ← readJoined fuel (← readPipeline fuel)
            let token ← readToken commands
            let { line, .. } ← get
            let command :=
              if token = .ampersand then inBackground line command else command
            let list := match before with
              | none => command
              | some before => .sequence before command
            let next := if place = .line then .line else .optional
            match token with
            | .theEnd => atEnd (some list)
            | .newline =>
                pushBack
                readList fuel next (some list)
            | .ampersand | .semicolon => readList fuel next (some list)
            | _ =>
                if place = .line then refuse none
                pushBack
                return some list

/-- A list that holds a command, unless the script ends here, which is for others to find
out. -/
def readBody : (fuel : Nat) → Reading Command
  | 0 => fail (.unexpected .theEnd none)
  | fuel + 1 => do
      return (← readList fuel .inside none).getD (.simple 0 [] [] [])

def readJoined : (fuel : Nat) → (first : Command) → Reading Command
  | 0, first => return first
  | fuel + 1, first => do
      match ← readToken (substituted fuel) with
      | .both =>
          expect .laterCommand
          readJoined fuel (.conjunction first (← readPipeline fuel))
      | .either =>
          expect .laterCommand
          readJoined fuel (.alternative first (← readPipeline fuel))
      | _ =>
          pushBack
          return first

def readPipeline : (fuel : Nat) → Reading Command
  | 0 => fail (.unexpected .theEnd none)
  | fuel + 1 => do
      let isNegated := (← readToken (substituted fuel)) = .reserved "!"
      if isNegated then expect .command else pushBack
      let command ← match ← readStages fuel [] with
        | [command] => pure command
        | commands => pure (.pipeline commands)
      return if isNegated then .negation command else command

def readStages : (fuel : Nat) → List Command → Reading (List Command)
  | 0, stages => return stages.reverse
  | fuel + 1, stages => do
      let stages := (← readCommand fuel) :: stages
      if (← readToken (substituted fuel)) = .bar then
        expect .laterCommand
        readStages fuel stages
      else
        pushBack
        return stages.reverse

def readCommand : (fuel : Nat) → Reading Command
  | 0 => fail (.unexpected .theEnd none)
  | fuel + 1 => do
      let commands := substituted fuel
      let line := (← get).line
      let closed (command : Command) (token : Token) : Reading Command := do
        demand commands token
        return command
      let command ← match ← readToken commands with
        | .word | .redirection =>
            pushBack
            return ← readSimple fuel true ⟨(← get).line, [], [], []⟩
        | .reserved "if" => do closed (← readConditional fuel) (.reserved "fi")
        | .reserved "while" => do closed (← readLoop fuel false) (.reserved "done")
        | .reserved "until" => do closed (← readLoop fuel true) (.reserved "done")
        | .reserved "for" => do closed (← readIteration fuel line) (.reserved "done")
        | .reserved "case" => readChoice fuel line
        | .reserved "\x7b" => do closed (← readBody fuel) (.reserved "\x7d")
        | .opening => do closed (.subshell line (← readBody fuel) []) .closing
        | _ => refuse none
      expect .command
      match ← readRedirections commands (← get).enough [], command with
      | [], command => return command
      | redirections, .subshell line body _ => return .subshell line body redirections
      | redirections, command => return .redirected line command redirections

def readConditional : (fuel : Nat) → Reading Command
  | 0 => fail (.unexpected .theEnd none)
  | fuel + 1 => do
      let commands := substituted fuel
      let test ← readBody fuel
      demand commands (.reserved "then")
      let body ← readBody fuel
      match ← readToken commands with
      | .reserved "elif" => return .conditional test body (some (← readConditional fuel))
      | .reserved "else" => return .conditional test body (some (← readBody fuel))
      | _ =>
          pushBack
          return .conditional test body none

def readLoop : (fuel : Nat) → (isUntil : Bool) → Reading Command
  | 0, _ => fail (.unexpected .theEnd none)
  | fuel + 1, isUntil => do
      let test ← readBody fuel
      demand (substituted fuel) (.reserved "do")
      return .loop isUntil test (← readBody fuel)

def readIteration : (fuel : Nat) → (line : Nat) → Reading Command
  | 0, _ => fail (.unexpected .theEnd none)
  | fuel + 1, line => do
      let commands := substituted fuel
      let token ← readToken commands
      let source ← get
      let name := (plainText? source.word).getD ""
      if token ≠ .word ∨ !isName name then fail .badLoopVariable
      expect .laterCommand
      let words ← if (← readToken commands) = .reserved "in" then do
          let words ← readWords commands (← get).enough []
          let token := (← get).token
          if token ≠ .newline ∧ token ≠ .semicolon then refuse none
          pure words.reverse
        else do
          if (← get).token ≠ .semicolon then pushBack
          pure [[.parameter true "@" .plain []]]
      expect .laterCommand
      demand commands (.reserved "do")
      return .iteration line name words (← readBody fuel)

def readChoice : (fuel : Nat) → (line : Nat) → Reading Command
  | 0, _ => fail (.unexpected .theEnd none)
  | fuel + 1, line => do
      let commands := substituted fuel
      demand commands .word
      let subject := (← get).word
      expect .laterCommand
      demand commands (.reserved "in")
      return .choice line subject (← readBranches fuel []).reverse

def readBranches : (fuel : Nat) → List (List Word × Option Command) →
    Reading (List (List Word × Option Command))
  | 0, branches => return branches
  | fuel + 1, branches => do
      let commands := substituted fuel
      expect .laterWord
      match ← readToken commands with
      | .reserved "esac" => return branches
      | token =>
          if token = .opening then
            let _ ← readToken commands
          let patterns ← readPatterns commands (← get).enough []
          let body ← readList fuel .optional none
          let branches := (patterns, body) :: branches
          expect .laterWord
          match ← readToken commands with
          | .reserved "esac" => return branches
          | .branchEnd => readBranches fuel branches
          | _ => refuse (some .branchEnd)

/-- A command without structure, of which a part has been read; or the definition of a
function. -/
def readSimple : (fuel : Nat) → (mayBeAlias : Bool) → Simple → Reading Command
  | 0, _, simple => return simple.command
  | fuel + 1, mayBeAlias, simple => do
      let commands := substituted fuel
      expect (if mayBeAlias then .mayAlias else .plain)
      match ← readToken commands with
      | .word =>
          let word := (← get).word
          match if mayBeAlias then splitAssignment? word else none with
          | some assignment =>
              readSimple fuel mayBeAlias
                { simple with assignments := assignment :: simple.assignments }
          | none => readSimple fuel false { simple with words := word :: simple.words }
      | .redirection =>
          let redirection ← readTarget commands
          readSimple fuel mayBeAlias
            { simple with redirections := redirection :: simple.redirections }
      | .opening =>
          match simple.words, simple.assignments, simple.redirections with
          | [word], [], [] => do
              demand commands .closing
              let name := (plainText? word).getD ""
              if !isName name || Builtin.isSpecial name then fail .badFunctionName
              expect .laterCommand
              return .function name (← readCommand fuel)
          | _, _, _ =>
              pushBack
              return simple.command
      | _ =>
          pushBack
          return simple.command

end

inductive Line where
  | theEnd
  | empty
  | command (command : Command)

def readLine : Reading Line := do
  modify fun source => { source with isPushedBack := false, pending := [] }
  match ← readList (← get).enough .line none with
  | some command => return .command command
  | none => return if (← get).token = .theEnd then .theEnd else .empty

def readInside : Reading Word := do
  let fuel := (← get).enough
  readPieces (substituted fuel) fuel ⟨.document, false, none⟩ false 0 []

end Reading

end ClockDiscipline.Shell
