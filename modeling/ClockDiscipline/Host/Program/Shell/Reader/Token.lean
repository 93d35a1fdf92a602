import ClockDiscipline.Host.Program.Shell.Reader.Word

/-!
Reading tokens. A word may turn out to be a reserved word or an alias if that is expected
where it stands, and the documents that a line has announced are read behind it.
-/

namespace ClockDiscipline.Shell.Reading

/-! ## Documents -/

def readDocument (commands : Substituted) (pending : PendingDocument) :
    Reading Document := do
  let documentEnd : DocumentEnd := ⟨pending.mark.toList, pending.stripsTabs⟩
  let fuel := (← get).enough
  if !pending.isExpanded then
    return ⟨false, [.text true (← readLines documentEnd fuel "")]⟩
  else if ← passMark documentEnd then return ⟨true, []⟩
  else return ⟨true,
    ← readPieces commands fuel ⟨.document, false, some documentEnd⟩ false 0 []⟩

def readDocuments (commands : Substituted) : Reading Unit := do
  let { pending, .. } ← getModify fun source => { source with pending := [] }
  for announced in pending do
    let document ← readDocument commands announced
    modify fun source => { source with
      documents := (announced.number, document) :: source.documents }

def omitDocuments : Reading Unit := do
  let { pending, .. } ← getModify fun source => { source with pending := [] }
  modify fun source => { source with
    documents := pending.map (·.number, ⟨true, []⟩) ++ source.documents }

/-! ## Tokens -/

def give (token : Token) : Reading Token := do
  modify fun source => { source with token }
  return token

def doubled (character : Char) (once twice : Token) : Reading Token := do
  give (if ← passIf character then twice else once)

def readHead (digit : Option Nat) : Reading RedirectionHead := do
  let reads ← passIf '<'
  if !reads then pass
  let descriptor := digit.getD (if reads then 0 else 1)
  match reads, ← peekJoined with
  | true, some '<' =>
      pass
      return .document descriptor (← passIf '-')
  | true, some '>' =>
      pass
      return .file descriptor .readWrite
  | _, some '&' =>
      pass
      return .file descriptor .duplicate
  | true, _ => return .file descriptor .read
  | false, some '>' =>
      pass
      return .file descriptor .append
  | false, some '|' =>
      pass
      return .file descriptor .overwrite
  | false, _ => return .file descriptor .write

def readWord (commands : Substituted) : Reading Token := do
  let source ← get
  let pieces ← readPieces commands source.enough
    ⟨.word, source.expectation.isMark, none⟩ false 0 []
  let digit? : Option (Option Nat) := match pieces with
    | [] => some none
    | [.text false text] =>
        match text.toList with
        | [digit] => if digit.isDigit then some (some (digit.toNat - '0'.toNat)) else none
        | _ => none
    | _ => none
  let next ← peekJoined
  match digit? with
  | some digit =>
      if next = some '<' ∨ next = some '>' then
        let head ← readHead digit
        modify fun source => { source with head }
        return ← give .redirection
  | none => pure ()
  modify fun source => { source with
    word := pieces
    isQuoted := pieces.any fun
      | .text isQuoted _ => isQuoted
      | _ => false }
  give .word

def readPlainToken (commands : Substituted) : (count : Nat) → Reading Token
  | 0 => give .theEnd
  | count + 1 => do
      match ← peekJoined with
      | none => give .theEnd
      | some ' ' | some '\t' =>
          pass
          readPlainToken commands count
      | some '#' =>
          passMany ((← get).rest.takeWhile (· ≠ '\n')).length
          readPlainToken commands count
      | some '\n' =>
          pass
          give .newline
      | some '&' =>
          pass
          doubled '&' .ampersand .both
      | some '|' =>
          pass
          doubled '|' .bar .either
      | some ';' =>
          pass
          doubled ';' .semicolon .branchEnd
      | some '(' =>
          pass
          give .opening
      | some ')' =>
          pass
          give .closing
      | some _ => readWord commands

def readAnyToken (commands : Substituted) : Reading Token := do
  let source ← get
  if source.isPushedBack then
    set { source with isPushedBack := false }
    return source.token
  else readPlainToken commands (source.remaining + 1)

/-- Read the documents behind ends of lines and what follows those, beginning with a
token. -/
def skipNewlines (commands : Substituted) : (count : Nat) → Token → Reading Token
  | 0, token => return token
  | count + 1, token => do
      if token = .newline then
        readDocuments commands
        modify fun source => { source with expectation := .plain }
        skipNewlines commands count (← readAnyToken commands)
      else return token

def readExpected (commands : Substituted) : (fuel : Nat) → Expectation → Reading Token
  | 0, _ => give .theEnd
  | fuel + 1, expectation => do
      let token ← readAnyToken commands
      let token ← if expectation.skipsLines then
          skipNewlines commands ((← get).remaining + 1) token
        else pure token
      let source ← get
      let mayBeAlias := expectation.mayBeAlias || source.expectation.mayBeAlias
      let mayBeReserved := expectation.mayBeReserved || source.expectation.mayBeReserved
      set { source with expectation := .plain }
      match if token = .word ∧ !source.isQuoted then plainText? source.word else none with
      | none => return token
      | some text =>
          if mayBeReserved && reservedWords.contains text then give (.reserved text)
          else
            match if mayBeAlias then source.alias? text else none with
            | none => return token
            | some value =>
                modify (·.expand text value)
                readExpected commands fuel { expectation with mayBeAlias, mayBeReserved }

def readToken (commands : Substituted) : Reading Token := do
  let source ← get
  readExpected commands source.enough source.expectation

def expect (expectation : Expectation) : Reading Unit :=
  modify fun source => { source with expectation }

def pushBack : Reading Unit :=
  modify fun source => { source with isPushedBack := true }

def refuse {α : Type} (expected : Option Token) : Reading α := do
  fail (.unexpected (← get).token expected)

end ClockDiscipline.Shell.Reading
