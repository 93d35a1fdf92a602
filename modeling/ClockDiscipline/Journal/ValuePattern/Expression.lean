/-!
Regular expressions as trees. Every part knows where it stands in the text of the
expression, so that a fault can be shown.
-/

namespace ClockDiscipline.ValuePattern

/-! ## Places -/

structure Position where
  index : Nat
  line : Nat
  column : Nat
  deriving DecidableEq, Repr

namespace Position

def start : Position := ⟨0, 1, 1⟩

def after (position : Position) (character : Char) : Position :=
  if character = '\n' then ⟨position.index + 1, position.line + 1, 1⟩
  else ⟨position.index + 1, position.line, position.column + 1⟩

end Position

structure Span where
  first : Position
  behind : Position
  deriving DecidableEq, Repr

def Span.at (position : Position) : Span := ⟨position, position⟩

/-! ## Classes of characters -/

/-- A character that stands for itself, by its code. One that is given by two hexadecimal
digits may stand for a byte. -/
structure Literal where
  span : Span
  code : Nat
  mayBeByte : Bool
  deriving DecidableEq, Repr

inductive ClassOperator where
  | intersection
  | difference
  | symmetricDifference
  deriving DecidableEq, Repr

mutual

inductive ClassItem where
  | nothing (span : Span)
  | single (literal : Literal)
  | range (span : Span) (first last : Literal)
  | named (span : Span) (isNegated : Bool)
  | shorthand (span : Span) (isNegated : Bool)
  | property (span : Span)
  | brackets (span : Span) (isNegated : Bool) (content : ClassContent)
  | union (span : Span) (items : List ClassItem)

inductive ClassContent where
  | item (item : ClassItem)
  | operation (span : Span) (operator : ClassOperator) (left right : ClassContent)

end

def ClassItem.span : ClassItem → Span
  | nothing span | range span _ _ | named span _ | shorthand span _ | property span
  | brackets span _ _ | union span _ => span
  | single character => character.span

def ClassContent.span : ClassContent → Span
  | item inner => inner.span
  | operation span _ _ _ => span

/-! ## Expressions -/

structure FlagChange where
  ignoresCase : Option Bool
  isUnicode : Option Bool
  skipsBlanks : Option Bool
  deriving DecidableEq, Repr

inductive Expression where
  | nothing (span : Span)
  | flags (span : Span) (change : FlagChange)
  | literal (literal : Literal)
  | anyCharacter (span : Span)
  /-- A place that is told by the characters around it. -/
  | edge (span : Span) (isWordBoundary : Bool)
  | shorthand (span : Span) (isNegated : Bool)
  | property (span : Span)
  | brackets (span : Span) (isNegated : Bool) (content : ClassContent)
  | repetition (span : Span) (body : Expression)
  | group (span : Span) (change : FlagChange) (body : Expression)
  | alternation (span : Span) (branches : List Expression)
  | concatenation (span : Span) (parts : List Expression)

namespace Expression

def span : Expression → Span
  | nothing span | flags span _ | anyCharacter span | edge span _ | shorthand span _
  | property span | brackets span _ _ | repetition span _ | group span _ _
  | alternation span _
  | concatenation span _ => span
  | literal character => character.span

def ofParts (span : Span) : List Expression → Expression
  | [] => nothing span
  | [part] => part
  | parts => concatenation span parts

def isRepeatable : Expression → Bool
  | nothing _ | flags _ _ => false
  | _ => true

end Expression

end ClockDiscipline.ValuePattern
