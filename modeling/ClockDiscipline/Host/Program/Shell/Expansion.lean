import ClockDiscipline.Host.Program.Shell.Arithmetic
import ClockDiscipline.Host.Program.Shell.Field
import ClockDiscipline.Host.Program.Shell.PathPattern
import ClockDiscipline.Host.Program.Shell.Variables

/-!
What words stand for. The pieces of a word become stretches of characters, the stretches
are cut into fields, and a field that is a pattern becomes the paths of the files that it
stands for.
-/

namespace ClockDiscipline.Shell

structure Usage where
  isCut : Bool
  isAssigned : Bool
  isInParameter : Bool
  deriving DecidableEq, Repr

namespace Usage

def fields : Usage := ⟨true, false, false⟩

def text : Usage := ⟨false, false, false⟩

def assigned : Usage := ⟨false, true, false⟩

end Usage

/-! ## Homes -/

def homes : List (String × String) :=
  [("root", "/root"), ("daemon", "/usr/sbin"), ("bin", "/bin"), ("sys", "/dev"),
    ("sync", "/bin"), ("games", "/usr/games"), ("man", "/var/cache/man"),
    ("lp", "/var/spool/lpd"), ("mail", "/var/mail"), ("news", "/var/spool/news"),
    ("uucp", "/var/spool/uucp"), ("proxy", "/bin"), ("www-data", "/var/www"),
    ("backup", "/var/backups"), ("list", "/var/list"), ("irc", "/run/ircd"),
    ("_apt", "/nonexistent"), ("nobody", "/nonexistent")]

/-- The home directory that a tilde at the front of a text stands for, and what follows.
The name of a user ends at a slash, at a colon in an assignment, or at the end of the
word. -/
def takeHome? (state : State) (usage : Usage) (isLast : Bool) (text : List Char) :
    Option (String × List Char) :=
  match text with
  | '~' :: rest =>
      let user := rest.takeWhile fun character =>
        character ≠ '/' && !(usage.isAssigned && character = ':')
      let rest := rest.drop user.length
      if rest.isEmpty && !isLast then none
      else
        let home := if user.isEmpty then state.valueOf? "HOME"
          else homes.lookup (String.ofList user)
        home.map (·, rest)
  | _ => none

/-- The stretches of a text without quotes. `mayBeHome` says whether a tilde at its front
counts, and `isLast` whether the word ends with it. -/
def plainStretches (state : State) (usage : Usage) (isLast : Bool) :
    (fuel : Nat) → (mayBeHome : Bool) → List Char → List Stretch
  | 0, _, _ => []
  | _ + 1, _, [] => []
  | fuel + 1, mayBeHome, text =>
      let plain (text : List Char) : Stretch :=
        .ofText false usage.isInParameter (String.ofList text)
      match if mayBeHome then takeHome? state usage isLast text else none with
      | some (home, rest) =>
          ⟨.never, home.toList.map (.character · true)⟩ ::
            plainStretches state usage isLast fuel false rest
      | none =>
          let front := if usage.isAssigned then text.takeWhile (· ≠ ':') else text
          match text.drop front.length with
          | [] => [plain front]
          | colon :: rest =>
              plain (front ++ [colon]) :: plainStretches state usage isLast fuel true rest

/-! ## Parameters -/

def State.joint (state : State) : String :=
  match state.valueOf? "IFS" with
  | some separators => (separators.take 1).toString
  | none => " "

def State.parameter? (state : State) (usage : Usage) (isQuoted : Bool) (name : String) :
    Option String :=
  let number (value : Nat) : Option String := some (toString value)
  match name with
  | "?" => number state.status
  | "#" => number state.arguments.length
  | "$" => number state.process
  | "!" => state.background.bind number
  | "-" => some (Options.letters state.options)
  | "0" => some state.name
  | "@" | "*" =>
      let staysApart := usage.isCut &&
        if isQuoted then name = "@" else (state.valueOf? "IFS").isSome
      let joint := if staysApart then String.singleton Cell.argumentEnd else state.joint
      some (joint.intercalate state.arguments)
  | other =>
      match Arguments.digits? other with
      | some index => state.arguments[index - 1]?
      | none => state.valueOf? other

def mark (isQuoted : Bool) : List Stretch :=
  if isQuoted then [⟨.never, [.quotes]⟩] else []

/-- The stretches of the value of a parameter. That of all arguments leaves no mark, so
that it can stand for nothing. -/
def valueStretches (arguments : List String) (isQuoted : Bool) (name value : String) :
    List Stretch :=
  if isQuoted && name = "@" then
    if arguments.isEmpty then []
    else [⟨.betweenArguments, value.toList.map (.character · true)⟩]
  else [.ofValue isQuoted value]

def compute (text : String) : Run Int :=
  (Expression.ofText text).evaluate
    { lookUp := fun name => do
        orFail (Arguments.integer false (((← get).valueOf? name).getD ""))
      assign := fun name value => assign name (toString value)
      fail := fun fault =>
        if fault = .quotientTooLarge then throw (.killed Signal.arithmetic)
        else fail (.expression fault text) }
    false

def checkMissing (name : String) : Run Unit := do
  if (← get).hasOption "nounset" then fail (.notSet name false)

def withoutLastLines (text : String) : String :=
  let characters := text.toList.filter (· ≠ '\x00')
  String.ofList (characters.reverse.dropWhile (· = '\n')).reverse

/-! ## Pieces -/

mutual

def stretchesOfPieces (substitute : Command → Run String) (usage : Usage)
    (mayBeHome : Bool) :
    List Piece → Run (List Stretch)
  | [] => return []
  | .text false value :: rest => do
      let stretches :=
        plainStretches (← get) usage rest.isEmpty (value.length + 1) mayBeHome
        value.toList
      return stretches ++ (← stretchesOfPieces substitute usage false rest)
  | piece :: rest => do
      let stretches ← stretchesOfPiece substitute usage piece
      return stretches ++ (← stretchesOfPieces substitute usage false rest)

def stretchesOfPiece (substitute : Command → Run String) (usage : Usage) :
    Piece → Run (List Stretch)
  | .text isQuoted value => return [.ofText isQuoted usage.isInParameter value]
  | .printed isQuoted none => return [.ofValue isQuoted ""]
  | .printed isQuoted (some command) => do
      return [.ofValue isQuoted (withoutLastLines (← substitute command))]
  | .number isQuoted expression => do
      let text := Stretch.text (← stretchesOfPieces substitute .text false expression)
      return [.ofValue isQuoted (toString (← compute text))]
  | .parameter isQuoted name treatment operand => do
      let value? := (← get).parameter? usage isQuoted name
      let present (value : String) : Run (List Stretch) := do
        return (if treatment = .plain then [] else mark isQuoted) ++
          valueStretches (← get).arguments isQuoted name value
      let isMissing (evenEmpty : Bool) : Bool :=
        value?.isNone || evenEmpty && value? = some ""
      let unlessMissing (evenEmpty : Bool) (otherwise : Run (List Stretch)) :
          Run (List Stretch) :=
        match value? with
        | some value => if isMissing evenEmpty then otherwise else present value
        | none => otherwise
      let replaced : Run (List Stretch) := do
        return mark isQuoted ++
          (← stretchesOfPieces substitute
            { usage with isInParameter := true } true operand)
      let operandText : Run String := do
        return Stretch.text (← stretchesOfPieces substitute .text true operand)
      let cut (change : Pattern → String → List Char) : Run (List Stretch) := do
        match value? with
        | none =>
            checkMissing name
            return mark isQuoted
        | some value =>
            let stretches ← stretchesOfPieces substitute .text true operand
            let pattern := Pattern.ofCharacters (Stretch.characters stretches)
            present (String.ofList (change pattern value))
      match treatment with
      | .plain =>
          match value? with
          | some value => present value
          | none =>
              checkMissing name
              return mark isQuoted
      | .length =>
          if value?.isNone then checkMissing name
          let value := ((← get).parameter? .text isQuoted name).getD ""
          return [.ofValue isQuoted (toString value.length)]
      | .default evenEmpty => unlessMissing evenEmpty replaced
      | .assign evenEmpty =>
          unlessMissing evenEmpty do
            assign name (← operandText)
            match (← get).parameter? usage isQuoted name with
            | some value => present value
            | none => return mark isQuoted
      | .require evenEmpty =>
          unlessMissing evenEmpty do
            if operand.isEmpty then fail (.notSet name evenEmpty)
            else fail (.refused name (← operandText))
      | .replace evenEmpty =>
          if isMissing evenEmpty then return [.ofValue isQuoted ""] else replaced
      | .cutFront longest =>
          cut fun pattern value => pattern.cutFront longest value.toList
      | .cutBack longest => cut fun pattern value => pattern.cutBack longest value.toList
      | .unknown => fail .badSubstitution

end

/-! ## Words -/

/-- The words that a field stands for. A pattern that fits nothing stands for itself. -/
def wordsOf (state : State) (field : List Cell) : List String :=
  if state.hasOption "noglob" then [Cell.text field]
  else
    match PathPattern.paths state.files (Cell.characters field) with
    | [] => [Cell.text field]
    | found => found

def expandWord (substitute : Command → Run String) (word : Word) : Run (List String) := do
  let stretches ← stretchesOfPieces substitute .fields true word
  let state ← get
  return (Cutter.cut state.separators none stretches).flatMap (wordsOf state)

def expandText (substitute : Command → Run String) (word : Word) : Run String := do
  return Stretch.text (← stretchesOfPieces substitute .text true word)

def expandValue (substitute : Command → Run String) (word : Word) : Run String := do
  return Stretch.text (← stretchesOfPieces substitute .assigned true word)

def expandAssigning (substitute : Command → Run String) (word : Word) :
    Run (List String) := do
  match splitAssignment? word with
  | some (name, value) => return [name ++ "=" ++ (← expandValue substitute value)]
  | none => expandWord substitute word

def expandPattern (substitute : Command → Run String) (word : Word) : Run Pattern := do
  return .ofCharacters
    (Stretch.characters (← stretchesOfPieces substitute .text true word))

def expandDocument (substitute : Command → Run String) (document : Document) :
    Run String := do
  return Stretch.text (← stretchesOfPieces substitute .text false document.pieces)

end ClockDiscipline.Shell
