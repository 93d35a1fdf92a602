import ClockDiscipline.Host.Program.Shell.Source

/-!
Reading words. The rules for a character depend on where it stands: in a word, in quotes,
in braces, in an expression on numbers or in a document.
-/

namespace ClockDiscipline.Shell

inductive Setting where
  | word
  | quotes (inBraces : Bool)
  | braces (isQuoted : Bool)
  | expression
  | document
  deriving DecidableEq, Repr

structure DocumentEnd where
  mark : List Char
  stripsTabs : Bool
  deriving DecidableEq, Repr

structure Scope where
  setting : Setting
  isMark : Bool
  documentEnd : Option DocumentEnd
  deriving DecidableEq, Repr

namespace Scope

def isQuoted (scope : Scope) : Bool :=
  match scope.setting with
  | .word => false
  | .braces isQuoted => isQuoted
  | .quotes _ | .expression | .document => true

def escapes (scope : Scope) (character : Char) : Bool :=
  let inBraces := match scope.setting with
    | .quotes inBraces => inBraces
    | .braces _ => true
    | _ => false
  !scope.isQuoted || "$\x60\\".toList.contains character ||
    (character = '"' && (inBraces || scope.documentEnd.isNone)) ||
      (character = '\x7d' && inBraces)

def fault? (scope : Scope) : Option SyntaxFault :=
  match scope.setting with
  | .word | .document => none
  | .expression => some .openExpression
  | .braces false => some .openBrace
  | .quotes _ | .braces true =>
      some (if scope.documentEnd.isSome then .openBrace else .openQuote)

def within (scope : Scope) (setting : Setting) : Scope := { scope with setting }

end Scope

def isBoundary (character : Char) : Bool := " \t\n;&|<>()".toList.contains character

def isSpecialParameter (character : Char) : Bool := "?#@*$!-".toList.contains character

def addText (isQuoted : Bool) (text : String) : List Piece → List Piece
  | .text wasQuoted value :: rest =>
      if wasQuoted = isQuoted then .text isQuoted (value ++ text) :: rest
      else .text isQuoted text :: .text wasQuoted value :: rest
  | pieces => .text isQuoted text :: pieces

namespace Reading

/-! ## Documents -/

def passMany : (count : Nat) → Reading Unit
  | 0 => return
  | count + 1 => do
      pass
      passMany count

/-- At the beginning of a line, pass the mark of a document if it stands there alone, and
tell whether it does. -/
def passMark (documentEnd : DocumentEnd) : Reading Bool := do
  if documentEnd.stripsTabs then
    passMany ((← get).rest.takeWhile (· = '\t')).length
  let rest := (← get).rest
  let size := documentEnd.mark.length
  if rest.take size ≠ documentEnd.mark then return false
  match rest.drop size with
  | [] =>
      passMany size
      return true
  | '\n' :: _ =>
      passMany (size + 1)
      return true
  | _ => return false

def readLines (documentEnd : DocumentEnd) :
    (count : Nat) → (text : String) → Reading String
  | 0, text => return text
  | count + 1, text => do
      if ← passMark documentEnd then return text
      let line := (← get).rest.takeWhile (· ≠ '\n')
      passMany line.length
      let text := text ++ String.ofList line
      if (← get).rest.isEmpty then return text
      pass
      readLines documentEnd count (text.push '\n')

/-! ## Parts of words -/

def takeSingleQuoted (scope : Scope) : (count : Nat) → (text : String) → Reading String
  | 0, text => return text
  | count + 1, text => do
      match ← peek with
      | none => fail (if scope.documentEnd.isSome then .openBrace else .openQuote)
      | some '\'' =>
          pass
          return text
      | some character =>
          pass
          takeSingleQuoted scope count (text.push character)

/-- The script between two grave accents. A backslash protects an accent, a dollar sign
and a backslash, and in quotes a quote. -/
def takeAccents (isQuoted : Bool) : (count : Nat) → (text : String) → Reading String
  | 0, text => return text
  | count + 1, text => do
      match ← peekJoined with
      | none => fail .openAccent
      | some '\x60' =>
          pass
          return text
      | some '\\' =>
          pass
          match ← peek with
          | none => fail .openAccent
          | some character =>
              pass
              let isProtected := "\\\x60$".toList.contains character ||
                (isQuoted && character = '"')
              takeAccents isQuoted count
                ((if isProtected then text else text.push '\\').push character)
      | some character =>
          pass
          takeAccents isQuoted count (text.push character)

structure Substituted where
  bare : Reading (Option Command)
  enclosed : Reading (Option Command)

def inside {α : Type} (commands : Reading α) : Reading α := do
  let { pending, .. } ← getModify fun outer =>
    { outer with pending := [], isPushedBack := false }
  let result ← commands
  modify fun inner => { inner with pending, isPushedBack := false }
  return result

def apart {α : Type} (text : String) (commands : Reading α) : Reading α := do
  let outer ← getModify fun outer =>
    { outer with rest := text.toList, remaining := text.length, line := 1, uses := [] }
  let result ← inside commands
  modify fun inner => { outer with
    documents := inner.documents, nextDocument := inner.nextDocument }
  return result

def passUncounted : Reading Unit := do
  let { line, .. } ← get
  pass
  modify fun source => { source with line }

def takeTreatment : Reading Treatment := do
  let operator? (evenEmpty : Bool) : Char → Option Treatment
    | '-' => some (.default evenEmpty)
    | '+' => some (.replace evenEmpty)
    | '?' => some (.require evenEmpty)
    | '=' => some (.assign evenEmpty)
    | _ => none
  match ← peekJoined with
  | none => return .unknown
  | some ':' =>
      pass
      let next ← peekJoined
      passUncounted
      return (next.bind (operator? true)).getD .unknown
  | some '#' =>
      pass
      return .cutFront (← passIf '#')
  | some '%' =>
      pass
      return .cutBack (← passIf '%')
  | some character =>
      passUncounted
      return (operator? false character).getD .unknown

def takeName : Reading String := do
  let isPart := if (← peekJoined).any Char.isDigit then Char.isDigit else isNameCharacter
  takeWhile isPart (← get).remaining ""

/-- The name and the treatment of a parameter in braces. The treatment is `plain` only if
nothing stands behind the name; otherwise the closing brace has not been passed. -/
def takeParameter : Reading (String × Treatment) := do
  let treated (name : String) : Reading (String × Treatment) := do
    if ← passIf '\x7d' then return (name, .plain)
    else return (name, ← takeTreatment)
  let measured (name : String) : Reading (String × Treatment) := do
    if (← peekJoined) = some '\x7d' then return (name, .length)
    else return (name, .unknown)
  match ← peekJoined with
  | none | some '\x7d' => return ("", .unknown)
  | some '#' =>
      pass
      match ← peekJoined with
      | none => return ("#", .unknown)
      | some '\x7d' =>
          pass
          return ("#", .plain)
      | some first =>
          if isNameCharacter first then measured (← takeName)
          else
            let before ← get
            pass
            if (← peekJoined) = some '\x7d' then
              if isSpecialParameter first then return (String.singleton first, .length)
              else return ("", .unknown)
            else
              set before
              return ("#", ← takeTreatment)
  | some first =>
      if isNameCharacter first then treated (← takeName)
      else
        pass
        if isSpecialParameter first then treated (String.singleton first)
        else return ("", .unknown)

/-! ## Pieces -/

mutual

/-- Read pieces up to the end of their scope, and pass what ends it, unless it ends a
word. `pieces` are those before, last first; `inQuotes` says whether quotes have been
opened in braces that are quoted themselves, and `depth` counts open parentheses. -/
def readPieces (commands : Substituted) : (fuel : Nat) → Scope → (inQuotes : Bool) →
    (depth : Nat) → List Piece → Reading (List Piece)
  | 0, _, _, _, pieces => return pieces.reverse
  | fuel + 1, scope, inQuotes, depth, pieces => do
      let goOn (pieces : List Piece) : Reading (List Piece) :=
        readPieces commands fuel scope inQuotes depth pieces
      let plain (character : Char) : List Piece :=
        addText scope.isQuoted (String.singleton character) pieces
      let nested (setting : Setting) : Reading (List Piece) := do
        let inner ← readPieces commands fuel (scope.within setting) false 0 []
        goOn ((if inner.isEmpty then [.text true ""] else inner.reverse) ++ pieces)
      match ← peekJoined with
      | none =>
          match scope.fault? with
          | some fault => fail fault
          | none => return pieces.reverse
      | some '\n' =>
          if scope.setting = .word then return pieces.reverse
          pass
          let isOver ← match scope.documentEnd with
            | some documentEnd => passMark documentEnd
            | none => pure false
          if isOver then
            match scope.fault? with
            | some fault => fail fault
            | none => return (plain '\n').reverse
          else goOn (plain '\n')
      | some '\\' =>
          pass
          match ← peek with
          | none => goOn (addText true "\\" pieces)
          | some escaped =>
              pass
              let text := String.singleton escaped
              goOn
                (addText true
                  (if scope.escapes escaped then text else "\\" ++ text) pieces)
      | some '\'' =>
          pass
          if scope.isQuoted then goOn (plain '\'')
          else
            goOn (addText true (← takeSingleQuoted scope (← get).enough "") pieces)
      | some '"' =>
          pass
          match scope.setting with
          | .word => nested (.quotes false)
          | .braces false => nested (.quotes true)
          | .braces true => readPieces commands fuel scope (!inQuotes) depth pieces
          | .quotes _ => return pieces.reverse
          | .expression | .document => goOn (plain '"')
      | some '$' =>
          pass
          if scope.isMark then goOn (plain '$')
          else
            match ← readDollar commands fuel scope with
            | .text isQuoted text => goOn (addText isQuoted text pieces)
            | piece => goOn (piece :: pieces)
      | some '\x60' =>
          pass
          if scope.isMark then goOn (plain '\x60')
          else
            let script ← takeAccents scope.isQuoted (← get).enough ""
            goOn (.printed scope.isQuoted (← apart script commands.bare) :: pieces)
      | some '\x7d' =>
          pass
          match scope.setting with
          | .braces _ => if inQuotes then goOn (plain '\x7d') else return pieces.reverse
          | _ => goOn (plain '\x7d')
      | some character =>
          match scope.setting with
          | .word => if isBoundary character then return pieces.reverse
          | _ => pure ()
          pass
          if scope.setting = .expression ∧ character = '(' then
            readPieces commands fuel scope inQuotes (depth + 1) (plain character)
          else if scope.setting = .expression ∧ character = ')' then
            if 0 < depth then
              readPieces commands fuel scope inQuotes (depth - 1) (plain character)
            else if ← passIf ')' then return pieces.reverse
            else goOn (plain character)
          else goOn (plain character)

def readDollar (commands : Substituted) : (fuel : Nat) → Scope → Reading Piece
  | 0, _ => return .text false "$"
  | fuel + 1, scope => do
      let isQuoted := scope.isQuoted
      match ← peekJoined with
      | none => return .text isQuoted "$"
      | some '(' =>
          pass
          if ← passIf '(' then
            return .number isQuoted
              (← readPieces commands fuel (scope.within .expression) false 0 [])
          else
            return .printed isQuoted (← inside commands.enclosed)
      | some '\x7b' =>
          pass
          let (name, treatment) ← takeParameter
          if treatment = .plain then return .parameter isQuoted name .plain []
          else
            -- Quotes around a parameter do not quote a pattern in it.
            let isPattern := treatment matches .cutFront _ | .cutBack _
            let operand ← readPieces commands fuel
              (scope.within (.braces (isQuoted && !isPattern))) false 0 []
            return .parameter isQuoted name treatment operand
      | some first =>
          if first.isDigit ∨ isSpecialParameter first then
            pass
            return .parameter isQuoted (String.singleton first) .plain []
          else if isNameStart first then
            return .parameter isQuoted
              (← takeWhile isNameCharacter (← get).remaining "") .plain []
          else return .text isQuoted "$"

end

end Reading

end ClockDiscipline.Shell
