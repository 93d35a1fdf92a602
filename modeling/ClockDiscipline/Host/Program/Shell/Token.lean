import ClockDiscipline.Host.Program.Shell.Syntax

/-!
Tokens of a script, and what is wrong with scripts that break the rules.
-/

namespace ClockDiscipline.Shell

inductive Token where
  | theEnd
  | newline
  | semicolon
  | ampersand
  | both
  | either
  | bar
  | opening
  | closing
  | branchEnd
  | redirection
  | word
  | reserved (name : String)
  deriving DecidableEq, Repr

namespace Token

def description : Token → String
  | theEnd => "end of file"
  | newline => "newline"
  | semicolon => "\";\""
  | ampersand => "\"&\""
  | both => "\"&&\""
  | either => "\"||\""
  | bar => "\"|\""
  | opening => "\"(\""
  | closing => "\")\""
  | branchEnd => "\";;\""
  | redirection => "redirection"
  | word => "word"
  | reserved name => "\"" ++ name ++ "\""

def endsList : Token → Bool
  | theEnd | closing | branchEnd => true
  | reserved name =>
      ["do", "done", "elif", "else", "esac", "fi", "then", "\x7d"].contains name
  | _ => false

end Token

inductive SyntaxFault where
  | unexpected (found : Token) (expected : Option Token)
  | badFunctionName
  | badLoopVariable
  | openQuote
  | openBrace
  | openExpression
  | openAccent
  | badDescriptor
  deriving DecidableEq, Repr

namespace SyntaxFault

def description : SyntaxFault → String
  | unexpected found none => found.description ++ " unexpected"
  | unexpected found (some expected) =>
      found.description ++ " unexpected (expecting " ++ expected.description ++ ")"
  | badFunctionName => "Bad function name"
  | badLoopVariable => "Bad for loop variable"
  | openQuote => "Unterminated quoted string"
  | openBrace => "Missing '\x7d'"
  | openExpression => "Missing '))'"
  | openAccent => "EOF in backquote substitution"
  | badDescriptor => "Bad fd number"

def message (fault : SyntaxFault) : String := "Syntax error: " ++ fault.description

end SyntaxFault

end ClockDiscipline.Shell
