import ClockDiscipline.Journal.ValuePattern.Fault
import ClockDiscipline.Text.Alphanumeric
import ClockDiscipline.Text.Blank

/-!
Reading regular expressions. A value holds neither a comma nor a closing brace, for these
end it. So nothing in braces is ever complete.
-/

namespace ClockDiscipline.ValuePattern

/-! ## Moving on -/

structure State where
  rest : List Char
  position : Position
  skipsBlanks : Bool
  names : List (String × Span)

abbrev Reader := StateT State (Except Fault)

def refuse {α : Type} (cause : Cause) (first behind : Position) : Reader α :=
  throw (.broken cause ⟨first, behind⟩ none)

def refuseAgain {α : Type} (cause : Cause) (part earlier : Span) : Reader α :=
  throw (.broken cause part (some earlier))

def position : Reader Position := return (← get).position

def next? : Reader (Option Char) := return (← get).rest.head?

def take : Reader Unit :=
  modify fun state =>
    match state.rest with
    | [] => state
    | character :: rest => { state with rest, position := state.position.after character }

def takeCharacters : (count : Nat) → Reader Unit
  | 0 => return
  | count + 1 => do
      take
      takeCharacters count

def takeWhile (test : Char → Bool) : Reader (List Char) := do
  let found := (← get).rest.takeWhile test
  takeCharacters found.length
  return found

def skipWithin : (fuel : Nat) → Reader Unit
  | 0 => return
  | fuel + 1 => do
      if (← get).skipsBlanks then
        let _ ← takeWhile Text.isBlank
        if (← next?) = some '#' then
          let _ ← takeWhile (· ≠ '\n')
          take
          skipWithin fuel

def skip : Reader Unit := do skipWithin ((← get).rest.length + 1)

def step : Reader Unit := do
  take
  skip

def takeIf (text : String) : Reader Bool := do
  if text.toList.isPrefixOf (← get).rest then
    takeCharacters text.length
    return true
  else return false

def behindNext : Reader Position := do
  let { rest, position, .. } ← get
  return match rest with
    | [] => position
    | character :: _ => position.after character

def nextSpan : Reader Span := return ⟨← position, ← behindNext⟩

def refuseNext {α : Type} (cause : Cause) : Reader α := do
  refuse cause (← position) (← behindNext)

def refuseHere {α : Type} (cause : Cause) : Reader α := do
  refuse cause (← position) (← position)

/-! ## Escapes -/

inductive Primitive where
  | literal (literal : Literal)
  | anyCharacter (span : Span)
  | edge (span : Span) (isWordBoundary : Bool)
  | shorthand (span : Span) (isNegated : Bool)
  | property (span : Span)

namespace Primitive

def span : Primitive → Span
  | literal character => character.span
  | anyCharacter span | edge span _ | shorthand span _ | property span => span

def toExpression : Primitive → Expression
  | literal character => .literal character
  | anyCharacter span => .anyCharacter span
  | edge span isWordBoundary => .edge span isWordBoundary
  | shorthand span isNegated => .shorthand span isNegated
  | property span => .property span

end Primitive

def isHexDigit (character : Char) : Bool :=
  character.isDigit || ('a' ≤ character && character ≤ 'f') ||
    ('A' ≤ character && character ≤ 'F')

def hexValue (digits : List Char) : Nat :=
  digits.foldl
    (fun value digit => value * 16 +
      (if digit.isDigit then digit.toNat - '0'.toNat
        else digit.toLower.toNat - 'a'.toNat + 10))
    0

def readHexDigits (isFirst : Bool) : (count : Nat) → Reader (List Char)
  | 0 => return []
  | count + 1 => do
      unless isFirst do step
      match ← next? with
      | none => refuseHere .unfinishedEscape
      | some digit =>
          if isHexDigit digit then return digit :: (← readHexDigits false count)
          else refuseNext .noHexDigit

/-- Hexadecimal digits in braces, which are never closed. -/
def readHexBraces (brace : Position) : (fuel : Nat) → Reader Unit
  | 0 => return
  | fuel + 1 => do
      step
      match ← next? with
      | none => refuse .unfinishedEscape brace (← position)
      | some digit =>
          if isHexDigit digit then readHexBraces brace fuel else refuseNext .noHexDigit

def readHex (start : Position) (letter : Char) : Reader Literal := do
  step
  let first ← position
  match ← next? with
  | none => refuseHere .unfinishedEscape
  | some '\x7b' =>
      readHexBraces first ((← get).rest.length + 1)
      refuse .unfinishedEscape first (← position)
  | some _ =>
      let size := if letter = 'x' then 2 else if letter = 'u' then 4 else 8
      let code := hexValue (← readHexDigits true size)
      step
      let behind ← position
      if code < 0xd800 ∨ (0xdfff < code ∧ code < 0x110000) then
        return ⟨⟨start, behind⟩, code, letter = 'x'⟩
      else refuse .noCharacter first behind

def readProperty (start : Position) : Reader Primitive := do
  step
  match ← next? with
  | none => refuseHere .unfinishedEscape
  | some '\x7b' =>
      takeCharacters (← get).rest.length
      refuseHere .unfinishedEscape
  | some '\\' => refuseNext .invalidProperty
  | some _ =>
      step
      return .property ⟨start, ← position⟩

def takeBoundaryName : (fuel : Nat) → Reader Unit
  | 0 => return
  | fuel + 1 => do
      if (← next?).any fun character => character.isAlpha || character = '-' then
        step
        takeBoundaryName fuel

/-- The end of a word. It may be asked for by a name in braces, which are never closed;
what is no name there belongs to a count. -/
def readBoundary (start : Position) : Reader Primitive := do
  let before ← get
  if before.rest.head? = some '\x7b' then
    step
    match ← next? with
    | none => refuse .unfinishedBoundary start (← position)
    | some character =>
        if character.isAlpha || character = '-' then
          takeBoundaryName (before.rest.length + 1)
          refuse .unclosedBoundary before.position (← position)
        else set before
  return .edge ⟨start, before.position⟩ true

def controlCharacters : List (Char × Nat) :=
  [('a', 0x07), ('f', 0x0c), ('t', 0x09), ('n', 0x0a), ('r', 0x0d), ('v', 0x0b)]

def readEscape : Reader Primitive := do
  let start ← position
  take
  match ← next? with
  | none => refuse .unfinishedEscape start (← position)
  | some letter =>
      if letter.isDigit then refuse .backreference start (← behindNext)
      else if "xuU".toList.contains letter then return .literal (← readHex start letter)
      else if letter = 'p' ∨ letter = 'P' then readProperty start
      else
        take
        let span : Span := ⟨start, ← position⟩
        if "dswDSW".toList.contains letter then return .shorthand span letter.isUpper
        else if let some code := controlCharacters.lookup letter then
          return .literal ⟨span, code, false⟩
        else if letter = 'A' ∨ letter = 'z' then return .edge span false
        else if letter = 'b' then readBoundary start
        else if letter = 'B' ∨ letter = '<' ∨ letter = '>' then return .edge span true
        else if letter.isAlpha ∨ 0x80 ≤ letter.toNat then
          refuse .unknownEscape span.first span.behind
        else return .literal ⟨span, letter.toNat, false⟩

/-! ## Classes of characters -/

def classNames : List String :=
  ["alnum", "alpha", "ascii", "blank", "cntrl", "digit", "graph", "lower", "print",
    "punct", "space", "upper", "word", "xdigit"]

def takeNamedClass : Reader (Option ClassItem) := do
  let first ← position
  match (← get).rest with
  | '[' :: ':' :: rest =>
      let isNegated := rest.head? = some '^'
      let inner := if isNegated then rest.tail else rest
      let name := inner.takeWhile (· ≠ ':')
      if classNames.contains (String.ofList name) &&
          (inner.drop name.length).take 2 = [':', ']'] then
        takeCharacters (2 + (rest.length - inner.length) + name.length + 2)
        return some (.named ⟨first, ← position⟩ isNegated)
      else return none
  | _ => return none

def readVerbatim (character : Char) : Reader Literal := do
  let span ← nextSpan
  take
  return ⟨span, character.toNat, false⟩

def readMember (opening : Span) : Reader Primitive := do
  match ← next? with
  | some '\\' => readEscape
  | some character => return .literal (← readVerbatim character)
  | none => refuse .unclosedClass opening.first opening.behind

/-- The character behind a hyphen that tells whether the hyphen makes a range. Where
blanks are skipped, so are those and the first sign of a comment. -/
def beyondHyphen (skipsBlanks : Bool) (characters : List Char) : Option Char :=
  if skipsBlanks then
    let first := match characters.dropWhile Text.isBlank with
      | '#' :: comment => comment.dropWhile Text.isBlank
      | beyond => beyond
    first.head? <|> characters.head?
  else characters.head?

def readRange (opening : Span) : Reader ClassItem := do
  let lower ← readMember opening
  skip
  let { rest, skipsBlanks, .. } ← get
  match rest with
  | [] => refuse .unclosedClass opening.first opening.behind
  | separator :: behind =>
      let beyond := beyondHyphen skipsBlanks behind
      if separator ≠ '-' ∨ beyond = some ']' ∨ beyond = some '-' then
        match lower with
        | .literal character => return .single character
        | .shorthand span isNegated => return .shorthand span isNegated
        | .property span => return .property span
        | _ => refuse .escapeInClass lower.span.first lower.span.behind
      else
        step
        let upper ← readMember opening
        match lower, upper with
        | .literal low, .literal high =>
            let span : Span := ⟨low.span.first, high.span.behind⟩
            if high.code < low.code then refuse .reversedRange span.first span.behind
            return .range span low high
        | .literal _, _ => refuse .openRange upper.span.first upper.span.behind
        | _, _ => refuse .openRange lower.span.first lower.span.behind

/-- What stands in a class so far: items, the latest first, behind an operation that waits
for its right side. -/
structure Members where
  span : Span
  items : List ClassItem
  waiting : Option (ClassOperator × ClassContent)

namespace Members

def startingAt (position : Position) : Members := ⟨.at position, [], none⟩

def push (members : Members) (item : ClassItem) : Members :=
  let first := if members.items.isEmpty then item.span.first else members.span.first
  { members with span := ⟨first, item.span.behind⟩, items := item :: members.items }

def content (members : Members) : ClassContent :=
  let item : ClassItem := match members.items with
    | [] => .nothing members.span
    | [item] => item
    | items => .union members.span items.reverse
  match members.waiting with
  | none => .item item
  | some (operator, left) =>
      .operation ⟨left.span.first, item.span.behind⟩ operator left (.item item)

end Members

def takeHyphens (start : Position) : (fuel : Nat) → Members → Reader Members
  | 0, members => return members
  | fuel + 1, members => do
      if (← next?) = some '-' then
        let span ← nextSpan
        step
        if (← next?).isNone then refuse .unclosedClass start start
        takeHyphens start fuel (members.push (.single ⟨span, '-'.toNat, false⟩))
      else return members

def readOpening : Reader (Span × Bool × Members) := do
  let start ← position
  step
  if (← next?).isNone then refuse .unclosedClass start (← position)
  let isNegated := (← next?) = some '^'
  if isNegated then
    step
    if (← next?).isNone then refuse .unclosedClass start (← position)
  let members ← takeHyphens start ((← get).rest.length + 1) (.startingAt (← position))
  if members.items.isEmpty ∧ (← next?) = some ']' then
    let span ← nextSpan
    step
    if (← next?).isNone then refuse .unclosedClass start (← position)
    return (⟨start, ← position⟩, isNegated,
      members.push (.single ⟨span, ']'.toNat, false⟩))
  return (⟨start, ← position⟩, isNegated, members)

def operatorOf? : List Char → Option ClassOperator
  | '&' :: '&' :: _ => some .intersection
  | '-' :: '-' :: _ => some .difference
  | '~' :: '~' :: _ => some .symmetricDifference
  | _ => none

mutual

def readClass : (fuel : Nat) → Reader (Span × Bool × ClassContent)
  | 0 => refuseHere .unclosedClass
  | fuel + 1 => do
      let (opening, isNegated, members) ← readOpening
      let content ← readMembers fuel opening members
      return (⟨opening.first, ← position⟩, isNegated, content)

def readMembers : (fuel : Nat) → (opening : Span) → Members → Reader ClassContent
  | 0, _, _ => refuseHere .unclosedClass
  | fuel + 1, opening, members => do
      skip
      let rest := (← get).rest
      match rest, operatorOf? rest with
      | [], _ => refuse .unclosedClass opening.first opening.behind
      | _, some operator =>
          takeCharacters 2
          readMembers fuel opening
            { Members.startingAt (← position) with
              waiting := some (operator, members.content) }
      | '[' :: _, none =>
          match ← takeNamedClass with
          | some item => readMembers fuel opening (members.push item)
          | none =>
              let (span, isNegated, content) ← readClass fuel
              readMembers fuel opening (members.push (.brackets span isNegated content))
      | ']' :: _, none =>
          take
          return members.content
      | _, none => readMembers fuel opening (members.push (← readRange opening))

end

/-! ## Flags and names -/

def FlagChange.none : FlagChange := ⟨.none, .none, .none⟩

def FlagChange.set (letter : Char) (isOn : Bool) (change : FlagChange) : FlagChange :=
  match letter with
  | 'i' => { change with ignoresCase := some isOn }
  | 'u' => { change with isUnicode := some isOn }
  | 'x' => { change with skipsBlanks := some isOn }
  | _ => change

/-- Read flags up to a colon or a closing parenthesis. The letters that were read come
with their places, the latest first. -/
def readFlags : (fuel : Nat) → (isOn : Bool) → (seen : List (Char × Span)) → FlagChange →
    Reader (List (Char × Span) × FlagChange)
  | 0, _, seen, change => return (seen, change)
  | fuel + 1, isOn, seen, change => do
      match ← next? with
      | none => refuseHere .unfinishedFlags
      | some letter =>
          if letter = ':' ∨ letter = ')' then
            if let ('-', span) :: _ := seen then
              refuse .danglingNegation span.first span.behind
            return (seen, change)
          else
            if letter ≠ '-' ∧ !"imsUuRx".toList.contains letter then
              refuseNext .unknownFlag
            let span ← nextSpan
            if let some earlier := seen.lookup letter then
              refuseAgain
                (if letter = '-' then .repeatedNegation else .repeatedFlag) span earlier
            take
            if letter = '-' then readFlags fuel false ((letter, span) :: seen) change
            else readFlags fuel isOn ((letter, span) :: seen) (change.set letter isOn)

def isNameCharacter (isFirst : Bool) (character : Char) : Bool :=
  if isFirst then character = '_' || Text.isAlphabetic character
  else "_.[]".toList.contains character || Text.isAlphanumeric character

def readName : (fuel : Nat) → (name : List Char) → Reader String
  | 0, name => return String.ofList name
  | fuel + 1, name => do
      match ← next? with
      | none => refuseHere .unfinishedName
      | some '>' => return String.ofList name
      | some character =>
          if isNameCharacter name.isEmpty character then
            take
            readName fuel (name ++ [character])
          else refuseNext .invalidName

def readGroupName : Reader Unit := do
  let first ← position
  let name ← readName ((← get).rest.length + 1) []
  let span : Span := ⟨first, ← position⟩
  take
  if name = "" then refuse .emptyName first first
  if let some earlier := (← get).names.lookup name then
    refuseAgain .repeatedName span earlier
  modify fun state => { state with names := (name, span) :: state.names }

/-- What a parenthesis opens: a group, or flags that hold from there on. -/
inductive Opening where
  | group (span : Span) (change : FlagChange)
  | flags (span : Span) (change : FlagChange)

def readGroupOpening : Reader Opening := do
  let span ← nextSpan
  step
  let inner ← position
  for sign in ["?=", "?!", "?<=", "?<!"] do
    if ← takeIf sign then refuse .lookAround span.first (← position)
  let isNamed ← do
    if ← takeIf "?P<" then pure true else takeIf "?<"
  if isNamed then
    readGroupName
    return .group span .none
  else if ← takeIf "?" then
    if (← next?).isNone then refuse .unclosedGroup span.first span.behind
    let (seen, change) ← readFlags ((← get).rest.length + 1) true [] .none
    let isWhole := (← next?) = some ')'
    take
    if isWhole then
      if seen.isEmpty then refuse .nothingToRepeat inner inner
      return .flags ⟨span.first, ← position⟩ change
    else return .group span change
  else return .group span .none

/-! ## Repetition -/

def takeDigits : (fuel : Nat) → Reader (List Char)
  | 0 => return []
  | fuel + 1 => do
      match ← next? with
      | some digit =>
          if digit.isDigit then
            step
            return digit :: (← takeDigits fuel)
          else return []
      | none => return []

def takeBlanks : (fuel : Nat) → Reader Unit
  | 0 => return
  | fuel + 1 => do
      if (← next?).any Text.isBlank then
        step
        takeBlanks fuel

def readCount {α : Type} : Reader α := do
  let start ← position
  let size := (← get).rest.length
  step
  if (← next?).isNone then refuse .unclosedCount start (← position)
  let _ ← takeWhile Text.isBlank
  let first ← position
  let digits ← takeDigits size
  let behind ← position
  takeBlanks size
  if (← next?).isNone then refuse .unclosedCount start (← position)
  if digits.isEmpty then refuse .noCount first behind
  if 0xffffffff <
    (digits.foldl (fun value digit => value * 10 + (digit.toNat - '0'.toNat)) 0) then
    refuse .numberTooLarge first behind
  refuse .unclosedCount start (← position)

/-! ## Whole expressions -/

/-- What has been read of an expression, or of a group that has been opened. -/
structure Progress where
  opening : Option Span
  first : Position
  branches : List Expression
  start : Position
  parts : List Expression

namespace Progress

def startingAt (opening : Option Span) (position : Position) : Progress :=
  ⟨opening, position, [], position, []⟩

def push (progress : Progress) (part : Expression) : Progress :=
  { progress with parts := part :: progress.parts }

def branch (progress : Progress) (behind : Position) : Expression :=
  .ofParts ⟨progress.start, behind⟩ progress.parts.reverse

def whole (progress : Progress) (behind : Position) : Expression :=
  let last := progress.branch behind
  match progress.branches with
  | [] => last
  | branches => .alternation ⟨progress.first, behind⟩ (last :: branches).reverse

end Progress

def readRepetition (progress : Progress) : Reader Progress := do
  match progress.parts with
  | part :: parts =>
      unless part.isRepeatable do refuseHere .nothingToRepeat
      take
      let _ ← takeIf "?"
      let span : Span := ⟨part.span.first, ← position⟩
      return { progress with parts := .repetition span part :: parts }
  | [] => refuseHere .nothingToRepeat

def readPrimitive (first : Char) : Reader Primitive := do
  if first = '\\' then readEscape
  else
    let span ← nextSpan
    take
    return match first with
      | '.' => .anyCharacter span
      | '^' | '$' => .edge span false
      | character => .literal ⟨span, character.toNat, false⟩

/-- Read on to the end of an expression, or of a group with its closing parenthesis. -/
def readParts : (fuel : Nat) → Progress → Reader Expression
  | 0, progress => return progress.whole (← position)
  | fuel + 1, progress => do
      skip
      let here ← position
      match ← next?, progress.opening with
      | none, some opening => refuse .unclosedGroup opening.first opening.behind
      | none, none => return progress.whole here
      | some ')', none => refuseNext .unopenedGroup
      | some ')', some _ =>
          take
          return progress.whole here
      | some '|', _ =>
          take
          let start ← position
          let branches := progress.branch here :: progress.branches
          readParts fuel { progress with branches, start, parts := [] }
      | some '(', _ =>
          match ← readGroupOpening with
          | .flags span change =>
              modify fun state =>
                { state with skipsBlanks := change.skipsBlanks.getD state.skipsBlanks }
              readParts fuel (progress.push (.flags span change))
          | .group span change =>
              let outer := (← get).skipsBlanks
              modify fun state =>
                { state with skipsBlanks := change.skipsBlanks.getD outer }
              let body ← readParts fuel (.startingAt (some span) (← position))
              modify fun state => { state with skipsBlanks := outer }
              let whole : Span := ⟨span.first, ← position⟩
              readParts fuel (progress.push (.group whole change body))
      | some '[', _ =>
          let (span, isNegated, content) ← readClass ((← get).rest.length + 2)
          readParts fuel (progress.push (.brackets span isNegated content))
      | some '?', _ | some '*', _ | some '+', _ =>
          readParts fuel (← readRepetition progress)
      | some '\x7b', _ =>
          unless progress.parts.head?.any
            Expression.isRepeatable do refuseHere .nothingToRepeat
          readCount
      | some first, _ =>
          readParts fuel (progress.push (← readPrimitive first).toExpression)

def Expression.ofText (pattern : String) : Except Fault Expression := do
  let characters := pattern.toList
  let reading := readParts (characters.length + 1) (.startingAt none .start)
  let (expression, _) ← reading.run ⟨characters, .start, false, []⟩
  return expression

end ClockDiscipline.ValuePattern
