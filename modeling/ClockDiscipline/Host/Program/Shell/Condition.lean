import ClockDiscipline.Host.Program.Condition
import ClockDiscipline.Host.Program.Shell.Fault

/-!
Conditions as the shell itself reads them. The grammar differs from that of the `test`
program in what it makes of missing and of left-over words.
-/

namespace ClockDiscipline.Shell.Condition

open ClockDiscipline.Condition

inductive Kind where
  | theEnd
  | operand
  | unary
  | binary
  | not
  | and
  | or
  | opening
  | closing
  deriving DecidableEq, Repr

def kindOf (word : String) : Kind :=
  if ["=", "!=", "<", ">", "-ef", "-nt", "-ot"].contains word ||
    (numberTest? word).isSome then
    .binary
  else
    match word with
    | "!" => .not
    | "-a" => .and
    | "-o" => .or
    | "(" => .opening
    | ")" => .closing
    | _ =>
        match word.toList with
        | ['-', letter] =>
            if "bcdefghknprstuwxzGLOS".toList.contains letter then .unary else .operand
        | _ => .operand

/-- What the first of some words is before the others. An operator on one word is a word
like any other where none follows, or where an operator between words does. -/
def kind : List String → Kind
  | [] => .theEnd
  | [word] =>
      if kindOf word = .unary ∨ kindOf word = .opening then .operand else kindOf word
  | word :: next :: rest =>
      if kindOf word = .unary ∧ !rest.isEmpty ∧ kindOf next = .binary then .operand
      else kindOf word

def number (word : String) : Except Fault Int :=
  match integer? word with
  | some value =>
      if -0x8000000000000000 ≤ value ∧ value < 0x8000000000000000 then .ok value
      else .error (.badNumber word)
  | none => .error (.badNumber word)

def pair (files : FileSystem) (left operator right : String) : Except Fault Bool :=
  match numberTest? operator with
  | some test => do
      let first ← number left
      return test first (← number right)
  | none =>
      match filePairTest? files false operator with
      | some test => .ok (test left right)
      | none =>
          match operator with
          | "=" => .ok (left = right)
          | "!=" => .ok (left ≠ right)
          | "<" => .ok (left < right)
          | _ => .ok (right < left)

def single (files : FileSystem) (operator word : String) : Except Fault Bool :=
  match operator with
  | "-n" => .ok (word ≠ "")
  | "-z" => .ok (word = "")
  -- No descriptor of a shell that the station runs is a terminal.
  | "-t" => (number word).map fun _ => false
  | _ =>
      match operator.toList[1]? >>= fileTest? files with
      | some test => .ok (test word)
      | none => .ok false

abbrev Part := Except Fault (Bool × List String)

mutual

def primary (files : FileSystem) : (fuel : Nat) → Kind → List String → Part
  | 0, _, _ => .error .missingClosing
  | _ + 1, .theEnd, words => .ok (false, words)
  | fuel + 1, .opening, words =>
      let inner := words.tail
      if kind inner = .closing then .ok (false, inner)
      else do
        let (value, rest) ← alternatives files fuel (kind inner) inner
        if kind rest.tail = .closing then return (value, rest.tail)
        else throw .missingClosing
  | _ + 1, .unary, operator :: rest =>
      match rest with
      | [] => .error (.missingOperand operator)
      | word :: _ => do return (← single files operator word, rest)
  | _ + 1, _, [] => .ok (false, [])
  | _ + 1, _, first :: rest =>
      if kind rest = .binary then
        match rest with
        | operator :: right :: behind => do
            return (← pair files first operator right, right :: behind)
        | _ => .error (.missingOperand (rest.headD ""))
      else .ok (first ≠ "", first :: rest)

def negated (files : FileSystem) : (fuel : Nat) → Kind → List String → Part
  | 0, _, _ => .error .missingClosing
  | fuel + 1, .not, words => do
      let next := kind words.tail
      let (value, rest) ← negated files fuel next
        (if next = .theEnd then words else words.tail)
      return (!value, rest)
  | fuel + 1, kind, words => primary files fuel kind words

/-- Terms joined by `-a`. All of them are looked at. -/
def conjunction (files : FileSystem) : (fuel : Nat) → Kind → List String → Part
  | 0, _, _ => .error .missingClosing
  | fuel + 1, first, words => do
      let (value, rest) ← negated files fuel first words
      if kind rest.tail = .and then
        let behind := rest.drop 2
        let (other, rest) ← conjunction files fuel (kind behind) behind
        return (value && other, rest)
      else return (value, rest)

def alternatives (files : FileSystem) : (fuel : Nat) → Kind → List String → Part
  | 0, _, _ => .error .missingClosing
  | fuel + 1, first, words => do
      let (value, rest) ← conjunction files fuel first words
      if kind rest.tail = .or then
        let behind := rest.drop 2
        let (other, rest) ← alternatives files fuel (kind behind) behind
        return (value || other, rest)
      else return (value, rest)

end

def whole (files : FileSystem) (first : Kind) (words : List String) :
    Except Fault Bool := do
  let (value, rest) ← alternatives files (4 * words.length + 8) first words
  match rest with
  | last :: _ :: _ => throw (.unexpectedOperator last)
  | _ => return value

/-- The value of a condition. Three words with an operator in the middle are always a
pair. -/
def evaluate (files : FileSystem) : List String → Except Fault Bool
  | [] => .ok false
  | [first, operator, last] =>
      if kindOf operator = .binary then whole files .operand [first, operator, last]
      else if first = "(" ∧ last = ")" then whole files (kind [operator]) [operator]
      else if first = "!" then (evaluate files [operator, last]).map not
      else whole files (kind [first, operator, last]) [first, operator, last]
  | [first, second, third, last] =>
      if first = "(" ∧ last = ")" then whole files (kind [second, third]) [second, third]
      else if first = "!" then (evaluate files [second, third, last]).map not
      else whole files (kind [first, second, third, last]) [first, second, third, last]
  | words => whole files (kind words) words

end ClockDiscipline.Shell.Condition
