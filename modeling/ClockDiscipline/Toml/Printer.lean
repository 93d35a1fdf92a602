import ClockDiscipline.Overflow
import ClockDiscipline.Toml.Text

/-!
Writing keys and values. A text is written in the plainest of four forms that can hold it:
in double quotes, in single quotes, or in three of either.
-/

namespace ClockDiscipline.Toml

/-! ## What a text contains -/

def needsCode (character : Char) : Bool :=
  (character.toNat < 0x20 && character ≠ '\t' && character ≠ '\n') || character = '\x7f'

/-- The length of the longest run of a character, where the present run has `current`. -/
def longestRun (target : Char) : (current : Nat) → (longest : Nat) → List Char → Nat
  | _, longest, [] => longest
  | current, longest, character :: rest =>
      if character = target then
        longestRun target (current + 1) (max longest (current + 1)) rest
      else longestRun target 0 longest rest

inductive Form where
  | basic
  | literal
  | basicBlock
  | literalBlock
  deriving DecidableEq, Repr

def form (text : List Char) : Form :=
  let hasBackslash := text.contains '\\'
  let hasCode := text.any needsCode
  let hasNewline := text.contains '\n'
  let doubles := longestRun '"' 0 0 text
  let singles := longestRun '\'' 0 0 text
  if !hasBackslash && !hasCode && doubles = 0 && !hasNewline then .basic
  else if !hasCode && singles = 0 && !hasNewline then .literal
  else if !hasBackslash && !hasCode && doubles ≤ 2 then .basicBlock
  else if !hasCode && singles ≤ 2 then .literalBlock
  else if hasNewline then .basicBlock
  else .basic

/-! ## Escaping -/

def codeDigits (code : Nat) : List Char :=
  let digits := (Nat.toDigits 16 code).map Char.toUpper
  List.replicate (4 - digits.length) '0' ++ digits

/-- Characters of a text in double quotes, where up to `free` double quotes in a row stand
without a backslash and `run` of them have just been written. -/
def escapeAll (isBlock : Bool) (free : Nat) : (run : Nat) → List Char → List Char
  | _, [] => []
  | run, '"' :: rest =>
      if run < free then '"' :: escapeAll isBlock free (run + 1) rest
      else '\\' :: '"' :: escapeAll isBlock free 0 rest
  | _, '\\' :: rest => '\\' :: '\\' :: escapeAll isBlock free 0 rest
  | _, '\x08' :: rest => '\\' :: 'b' :: escapeAll isBlock free 0 rest
  | _, '\t' :: rest => '\\' :: 't' :: escapeAll isBlock free 0 rest
  | _, '\n' :: rest =>
      if isBlock then '\n' :: escapeAll isBlock free 0 rest
      else '\\' :: 'n' :: escapeAll isBlock free 0 rest
  | _, '\x0c' :: rest => '\\' :: 'f' :: escapeAll isBlock free 0 rest
  | _, '\r' :: rest => '\\' :: 'r' :: escapeAll isBlock free 0 rest
  | _, character :: rest =>
      if needsCode character then
        '\\' :: 'u' :: codeDigits character.toNat ++ escapeAll isBlock free 0 rest
      else
        character :: escapeAll isBlock free 0 rest

/-! ## Values -/

def stringText (text : List Char) : List Char :=
  let leading := if text.contains '\n' then ['\n'] else []
  match form text with
  | .basic => '"' :: escapeAll false 0 0 text ++ ['"']
  | .literal => '\'' :: text ++ ['\'']
  | .basicBlock =>
      '"' :: '"' :: '"' :: leading ++ escapeAll true 2 0 text ++ ['"', '"', '"']
  | .literalBlock => '\'' :: '\'' :: '\'' :: leading ++ text ++ ['\'', '\'', '\'']

def naturalText? (value : Nat) : Option (List Char) :=
  if value ≤ signedMaximum then some (Nat.toDigits 10 value) else none

/-! ## Lines -/

def keyLine (key : String) (value : List Char) : List Char :=
  key.toList ++ ' ' :: '=' :: ' ' :: value ++ ['\n']

def headerLine (name : String) : List Char := '[' :: name.toList ++ [']', '\n']

end ClockDiscipline.Toml
