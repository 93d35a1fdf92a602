import ClockDiscipline.Host.Program.Number
import ClockDiscipline.Host.Program.Shell.Fault

/-!
How the shell reads numbers in words, and options in front of the arguments of its own
commands.
-/

namespace ClockDiscipline.Shell.Arguments

/-! ## Numbers -/

/-- A whole number, which must be all of a word, with blanks around it. One whose base is
told by its beginning may be missing. -/
def integer (isDecimal : Bool) (word : String) : Except Fault Int :=
  match Number.read? isDecimal word.toList with
  | some reading =>
      if reading.isTooLarge || !reading.rest.all Number.isBlank then
        .error (.badNumber word)
      else .ok reading.signed
  | none =>
      if !isDecimal && word.toList.all Number.isBlank then .ok 0
      else .error (.badNumber word)

def countLimit : Nat := 0x80000000

def count (word : String) : Except Fault Nat := do
  let value ← integer true word
  if 0 ≤ value ∧ value < countLimit then return value.toNat else throw (.badNumber word)

def digits? (word : String) : Option Nat :=
  if word ≠ "" && word.toList.all Char.isDigit then some (Number.ofDigits 10 word.toList)
  else none

example : (digits? "012", digits? "-1") = (some 12, none) := by decide +kernel

/-! ## Options -/

structure Chosen where
  letter : Char
  argument : Option String
  deriving DecidableEq, Repr

def allowed? (letters : List Char) (letter : Char) : Option Bool :=
  match letters with
  | [] => none
  | first :: ':' :: rest => if first = letter then some true else allowed? rest letter
  | first :: rest => if first = letter then some false else allowed? rest letter

/-- Read the letters of one word. Gives the options and the words behind. -/
def takeLetters (allowed : List Char) (words : List String) :
    List Char → Except Fault (List Chosen × List String)
  | [] => .ok ([], words)
  | letter :: letters =>
      match allowed? allowed letter with
      | none => .error (.badOption letter)
      | some false => do
          let (more, words) ← takeLetters allowed words letters
          return (⟨letter, none⟩ :: more, words)
      | some true =>
          if letters ≠ [] then .ok ([⟨letter, some (String.ofList letters)⟩], words)
          else
            match words with
            | [] => .error (.missingArgument letter)
            | argument :: words => .ok ([⟨letter, some argument⟩], words)

def takeOptionsWithin (allowed : List Char) : (fuel : Nat) → List String →
    Except Fault (List Chosen × List String)
  | 0, words => .ok ([], words)
  | _ + 1, [] => .ok ([], [])
  | fuel + 1, word :: rest =>
      match word.toList with
      | ['-', '-'] => .ok ([], rest)
      | '-' :: letter :: letters => do
          let (chosen, rest) ← takeLetters allowed rest (letter :: letters)
          let (more, rest) ← takeOptionsWithin allowed fuel rest
          return (chosen ++ more, rest)
      | _ => .ok ([], word :: rest)

def takeOptions (allowed : String) (words : List String) :
    Except Fault (List Chosen × List String) :=
  takeOptionsWithin allowed.toList (words.length + 1) words

end ClockDiscipline.Shell.Arguments
