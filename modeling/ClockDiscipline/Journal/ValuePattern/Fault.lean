import ClockDiscipline.Journal.ValuePattern.Expression
import ClockDiscipline.Text.Lines

/-!
What can be wrong with a regular expression, and how it is shown: the text of the
expression with signs under the faulty parts. A text of several lines has its lines
numbered.
-/

namespace ClockDiscipline.ValuePattern

def depthLimit : Nat := 250

inductive Cause where
  | escapeInClass
  | reversedRange
  | openRange
  | unclosedClass
  | numberTooLarge
  | noCharacter
  | noHexDigit
  | unfinishedEscape
  | unknownEscape
  | danglingNegation
  | repeatedFlag
  | repeatedNegation
  | unfinishedFlags
  | unknownFlag
  | repeatedName
  | emptyName
  | invalidName
  | unfinishedName
  | unclosedGroup
  | unopenedGroup
  | tooDeep
  | noCount
  | unclosedCount
  | nothingToRepeat
  | unclosedBoundary
  | unfinishedBoundary
  | invalidProperty
  | backreference
  | lookAround
  | unicodeRefused
  | invalidUtf8
  | unknownProperty
  | unknownClass
  | unknownCase
  deriving DecidableEq, Repr

def Cause.message : Cause → String
  | escapeInClass => "invalid escape sequence found in character class"
  | reversedRange => "invalid character class range, the start must be <= the end"
  | openRange => "invalid range boundary, must be a literal"
  | unclosedClass => "unclosed character class"
  | numberTooLarge => "decimal literal invalid"
  | noCharacter => "hexadecimal literal is not a Unicode scalar value"
  | noHexDigit => "invalid hexadecimal digit"
  | unfinishedEscape => "incomplete escape sequence, reached end of pattern prematurely"
  | unknownEscape => "unrecognized escape sequence"
  | danglingNegation => "dangling flag negation operator"
  | repeatedFlag => "duplicate flag"
  | repeatedNegation => "flag negation operator repeated"
  | unfinishedFlags => "expected flag but got end of regex"
  | unknownFlag => "unrecognized flag"
  | repeatedName => "duplicate capture group name"
  | emptyName => "empty capture group name"
  | invalidName => "invalid capture group character"
  | unfinishedName => "unclosed capture group name"
  | unclosedGroup => "unclosed group"
  | unopenedGroup => "unopened group"
  | tooDeep =>
      s!"exceed the maximum number of nested parentheses/brackets ({depthLimit})"
  | noCount => "repetition quantifier expects a valid decimal"
  | unclosedCount => "unclosed counted repetition"
  | nothingToRepeat => "repetition operator missing expression"
  | unclosedBoundary =>
      "special word boundary assertion is either unclosed or contains an invalid character"
  | unfinishedBoundary =>
      "found either the beginning of a special word boundary or a bounded repetition on a \\b " ++
        "with an opening brace, but no closing brace"
  | invalidProperty => "invalid Unicode character class"
  | backreference => "backreferences are not supported"
  | lookAround => "look-around, including look-ahead and look-behind, is not supported"
  | unicodeRefused => "Unicode not allowed here"
  | invalidUtf8 => "pattern can match invalid UTF-8"
  | unknownProperty => "Unicode property not found"
  | unknownClass =>
      "Unicode-aware Perl class not found (make sure the unicode-perl feature is enabled)"
  | unknownCase =>
      "Unicode-aware case insensitivity matching is not available (make sure the unicode-case " ++
        "feature is enabled)"

inductive Fault where
  | broken (cause : Cause) (part : Span) (earlier : Option Span)
  | wordBoundary
  deriving DecidableEq, Repr

/-! ## Showing the faulty parts -/

namespace Report

def divider : String := String.ofList (List.replicate 79 '~')

/-- How many digits number the lines of a text; none if there is one line only. -/
def numberWidth (pattern : String) : Nat :=
  let count := (pattern.toList.filter (· = '\n')).length + 1
  if count ≤ 1 then 0 else (toString count).length

def underline : (column : Nat) → List Span → List Char
  | _, [] => []
  | column, span :: rest =>
      let size := max 1 (span.behind.column - span.first.column)
      List.replicate (span.first.column - column) ' ' ++ List.replicate size '^' ++
        underline (max column span.first.column + size) rest

def markedLine (width : Nat) (spans : List Span) (line : String) (number : Nat) :
    List String :=
  let numeral := toString number
  let margin := if width = 0 then "    "
    else String.ofList (List.replicate (width - numeral.length) ' ') ++ numeral ++ ": "
  let marked := spans.filter (·.first.line = number)
  let signs := String.ofList
    (List.replicate margin.length ' ' ++ underline 1 marked)
  (margin ++ line) :: if marked.isEmpty then [] else [signs]

/-- Where a part lies that goes on over the end of a line. -/
def extent (span : Span) : String :=
  s!"on line {span.first.line} (column {span.first.column}) through line {span.behind.line} " ++
    s!"(column {span.behind.column - 1})"

def lines (pattern : String) (cause : Cause) (spans : List Span) : List String :=
  let isBefore (left right : Span) : Bool :=
    left.first.index < right.first.index ||
      (left.first.index = right.first.index && left.behind.index ≤ right.behind.index)
  let ordered := spans.mergeSort isBefore
  let (within, beyond) := ordered.partition fun span => span.first.line = span.behind.line
  let width := numberWidth pattern
  let shown := ((Text.lines pattern).zipIdx 1).flatMap fun (line, number) =>
    markedLine width within line number
  let framed := if width = 0 then shown else divider :: shown ++ [divider]
  "regex parse error:" :: framed ++ beyond.map extent ++ ["error: " ++ cause.message]

end Report

def Fault.causes (pattern : String) : Fault → List String
  | broken cause part earlier =>
      ["error building NFA", "error parsing regex",
        "\n".intercalate (Report.lines pattern cause (earlier.toList ++ [part]))]
  | wordBoundary =>
      ["unsupported regex feature for DFAs: cannot build DFAs for regexes with Unicode word " ++
        "boundaries; switch to ASCII word boundaries, or heuristically enable Unicode word " ++
        "boundaries or use a different regex engine"]

end ClockDiscipline.ValuePattern
