/-!
Scripts of the host's shell as trees. A word is made of pieces, some of which stand for
text that is known only when the word is needed. Characters stand for bytes.
-/

namespace ClockDiscipline.Shell

/-! ## Words -/

/-- What becomes of the value of a parameter. `evenEmpty` says whether an empty value is
treated as none. -/
inductive Treatment where
  | plain
  | length
  | default (evenEmpty : Bool)
  | assign (evenEmpty : Bool)
  | require (evenEmpty : Bool)
  | replace (evenEmpty : Bool)
  | cutFront (longest : Bool)
  | cutBack (longest : Bool)
  | unknown
  deriving DecidableEq, Repr

inductive RedirectionKind where
  | read
  | write
  | overwrite
  | append
  | readWrite
  | duplicate
  deriving DecidableEq, Repr

mutual

/-- A piece of a word. Text in quotes is neither cut at blanks nor a pattern. -/
inductive Piece where
  | text (isQuoted : Bool) (value : String)
  | parameter (isQuoted : Bool) (name : String) (treatment : Treatment)
      (operand : List Piece)
  | printed (isQuoted : Bool) (command : Option Command)
  | number (isQuoted : Bool) (expression : List Piece)

inductive Redirection where
  | file (descriptor : Nat) (kind : RedirectionKind) (target : List Piece)
  | document (descriptor number : Nat)

/-- A command. Some know the line of the script on which they begin. -/
inductive Command where
  | simple (line : Nat) (assignments : List (String × List Piece))
      (words : List (List Piece))
      (redirections : List Redirection)
  | pipeline (commands : List Command)
  | negation (command : Command)
  | sequence (first second : Command)
  | background (line : Nat) (command : Command) (redirections : List Redirection)
  | conjunction (first second : Command)
  | alternative (first second : Command)
  | subshell (line : Nat) (body : Command) (redirections : List Redirection)
  | redirected (line : Nat) (command : Command) (redirections : List Redirection)
  | conditional (test body : Command) (otherwise : Option Command)
  | loop (isUntil : Bool) (test body : Command)
  | iteration (line : Nat) (name : String) (words : List (List Piece)) (body : Command)
  | choice (line : Nat) (subject : List Piece)
      (branches : List (List (List Piece) × Option Command))
  | function (name : String) (body : Command)

end

abbrev Word := List Piece

structure Document where
  isExpanded : Bool
  pieces : List Piece

/-! ## Names -/

def isNameStart (character : Char) : Bool := character.isAlpha || character = '_'

def isNameCharacter (character : Char) : Bool := character.isAlphanum || character = '_'

def isName (text : String) : Bool :=
  text.toList.head?.any isNameStart && text.toList.all isNameCharacter

def splitAtEquals? (text : String) : Option (String × String) :=
  let name := text.toList.takeWhile (· ≠ '=')
  match text.toList.drop name.length with
  | _ :: value => some (String.ofList name, String.ofList value)
  | [] => none

def splitAssignment? : Word → Option (String × Word)
  | .text false front :: rest =>
      match splitAtEquals? front with
      | some (name, value) =>
          if isName name then
            some (name, if value = "" then rest else .text false value :: rest)
          else none
      | none => none
  | _ => none

def plainText? : Word → Option String
  | [.text false value] => some value
  | _ => none

/-! ## Reserved words -/

def reservedWords : List String :=
  ["!", "case", "do", "done", "elif", "else", "esac", "fi", "for", "if", "in", "then",
    "until", "while", "\x7b", "\x7d"]

end ClockDiscipline.Shell
