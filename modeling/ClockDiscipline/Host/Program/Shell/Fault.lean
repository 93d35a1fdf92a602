import ClockDiscipline.Host.Errno
import ClockDiscipline.Host.Program.Shell.Token

/-!
What goes wrong while a shell works, and how it complains about it.
-/

namespace ClockDiscipline.Shell

inductive ExpressionFault where
  | missingOperand
  | missingParenthesis
  | missingColon
  | leftOver
  | divisionByZero
  | quotientTooLarge
  deriving DecidableEq, Repr

def ExpressionFault.message : ExpressionFault → String
  | missingOperand => "expecting primary"
  | missingParenthesis => "expecting ')'"
  | missingColon => "expecting ':'"
  | leftOver => "expecting EOF"
  | divisionByZero => "division by zero"
  | quotientTooLarge => "division overflows"

inductive Fault where
  | syntactic (fault : SyntaxFault)
  | expression (fault : ExpressionFault) (text : String)
  | badSubstitution
  | notSet (name : String) (orEmpty : Bool)
  | refused (name words : String)
  | readOnly (name : String)
  | badName (name : String)
  | badNumber (word : String)
  | badOption (letter : Char)
  | badNamedOption (name : String)
  | missingArgument (letter : Char)
  | cannotOpen (path : String) (cause : Errno)
  | cannotCreate (path : String) (cause : Errno)
  | descriptor (number : Nat) (cause : Errno)
  | notFound (name : String)
  | cannotRun (name : String) (cause : Errno)
  | unexpectedOperator (word : String)
  | missingOperand (operator : String)
  | missingClosing
  | noSuchJob (name : String)
  | misuse (words : String)
  deriving DecidableEq, Repr

namespace Fault

def words (missing : String) (cause : Errno) : String :=
  if cause = .noSuchEntry ∨ cause = .notADirectory then missing else cause.description

def message : Fault → String
  | syntactic fault => fault.message
  | expression fault text =>
      "arithmetic expression: " ++ fault.message ++ ": \"" ++ text ++ "\""
  | badSubstitution => "Bad substitution"
  | notSet name orEmpty =>
      name ++ ": parameter not set" ++ if orEmpty then " or null" else ""
  | refused name words => name ++ ": " ++ words
  | readOnly name => name ++ ": is read only"
  | badName name => name ++ ": bad variable name"
  | badNumber word => "Illegal number: " ++ word
  | badOption letter => "Illegal option -" ++ String.singleton letter
  | badNamedOption name => "Illegal option -o " ++ name
  | missingArgument letter => "No arg for -" ++ String.singleton letter ++ " option"
  | cannotOpen path cause => "cannot open " ++ path ++ ": " ++ words "No such file" cause
  | cannotCreate path cause =>
      "cannot create " ++ path ++ ": " ++ words "Directory nonexistent" cause
  | descriptor number cause => s!"{number}: {cause.description}"
  | notFound name => name ++ ": not found"
  | cannotRun name cause => name ++ ": " ++ words "not found" cause
  | unexpectedOperator word =>
      if word = "" then "unexpected operator" else word ++ ": unexpected operator"
  | missingOperand operator => operator ++ ": argument expected"
  | missingClosing => "closing paren expected"
  | noSuchJob name => "No such job: " ++ name
  | misuse words => words

end Fault

end ClockDiscipline.Shell
