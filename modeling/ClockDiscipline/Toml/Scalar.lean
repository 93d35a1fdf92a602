import ClockDiscipline.Calendar
import ClockDiscipline.Overflow
import ClockDiscipline.Toml.Text
import ClockDiscipline.Toml.Value

/-!
Numbers, truth values and times of a TOML document. They are read as a whole word first,
which is then matched against each form.
-/

namespace ClockDiscipline.Toml

/-! ## Digits -/

/-- Digits of one base with single underscores between them, without the underscores. -/
def digits? (isDigit : Char → Bool) : List Char → Option (List Char)
  | [] => none
  | [last] => if isDigit last then some [last] else none
  | first :: '_' :: rest =>
      if isDigit first then (digits? isDigit rest).map (first :: ·) else none
  | first :: rest =>
      if isDigit first then (digits? isDigit rest).map (first :: ·) else none

def numeral (base : Nat) (digits : List Char) : Nat :=
  digits.foldl (fun value digit => value * base + (hexValue? digit).getD 0) 0

def sign (characters : List Char) : Bool × List Char :=
  match characters with
  | '-' :: rest => (true, rest)
  | '+' :: rest => (false, rest)
  | _ => (false, characters)

def decimalDigits? (characters : List Char) : Option (List Char) :=
  match characters with
  | ['0'] => some ['0']
  | '0' :: _ => none
  | _ => digits? Char.isDigit characters

/-! ## Integers -/

def bounded? (value : Int) : Option Int := if FitsSigned value then some value else none

def isBinaryDigit (character : Char) : Bool := character = '0' || character = '1'
def isOctalDigit (character : Char) : Bool := '0' ≤ character && character ≤ '7'
def isHexDigit (character : Char) : Bool := (hexValue? character).isSome

def integer? (word : List Char) : Option Int :=
  match word with
  | '0' :: 'x' :: rest => do bounded? (numeral 16 (← digits? isHexDigit rest))
  | '0' :: 'o' :: rest => do bounded? (numeral 8 (← digits? isOctalDigit rest))
  | '0' :: 'b' :: rest => do bounded? (numeral 2 (← digits? isBinaryDigit rest))
  | _ => do
      let (negative, rest) := sign word
      let magnitude : Int := numeral 10 (← decimalDigits? rest)
      bounded? (if negative then -magnitude else magnitude)

/-! ## Floats -/

def splitAt? (isSeparator : Char → Bool) (characters : List Char) :
    Option (List Char × List Char) :=
  match characters.dropWhile (!isSeparator ·) with
  | [] => none
  | _ :: behind => some (characters.takeWhile (!isSeparator ·), behind)

/-- Whether a positive decimal rounds to infinity: its digits, and the power of ten they
have. -/
def overflows (mantissa : Nat) (exponent : Int) : Bool :=
  let limit := Nat.pow 2 1024 - Nat.pow 2 970
  if mantissa = 0 then false
  else if (Nat.toDigits 10 mantissa).length + exponent > 400 then true
  else if (Nat.toDigits 10 mantissa).length + exponent < 0 then false
  else
    match exponent with
    | .ofNat power => limit ≤ mantissa * Nat.pow 10 power
    | .negSucc below => limit * Nat.pow 10 (below + 1) ≤ mantissa

def isFloat (word : List Char) : Bool :=
  let (negative, rest) := sign word
  if rest = "inf".toList ∨ rest = "nan".toList then true
  else
    let isMark (character : Char) : Bool := character = 'e' || character = 'E'
    let (number, exponent) := match splitAt? isMark rest with
      | some (number, exponent) => (number, some exponent)
      | none => (rest, none)
    let (whole, fraction) := match splitAt? (· = '.') number with
      | some (whole, fraction) => (whole, some fraction)
      | none => (number, none)
    let power : Option Int := match exponent with
      | none => some 0
      | some exponent =>
          let (negative, digits) := sign exponent
          (digits? Char.isDigit digits).map fun digits =>
            if negative then -(numeral 10 digits : Int) else numeral 10 digits
    let behind : Option (List Char) := match fraction with
      | none => some []
      | some fraction => digits? Char.isDigit fraction
    match decimalDigits? whole, behind, power with
    | some whole, some behind, some power =>
        (exponent.isSome || fraction.isSome) &&
          (negative || !overflows (numeral 10 (whole ++ behind)) (power - behind.length))
    | _, _, _ => false

/-! ## Dates and times -/

def number? (digits : List Char) : Option Nat :=
  if digits.all Char.isDigit then some (numeral 10 digits) else none

def isDate : List Char → Bool
  | [a, b, c, d, '-', e, f, '-', g, h] =>
      match number? [a, b, c, d], number? [e, f], number? [g, h] with
      | some year, some month, some day => decide (Date.mk year month day).Exists
      | _, _, _ => false
  | _ => false

def isHourMinute (a b c d : Char) : Bool :=
  match number? [a, b], number? [c, d] with
  | some hour, some minute => hour ≤ 23 && minute ≤ 59
  | _, _ => false

def isTime : List Char → Bool
  | a :: b :: ':' :: c :: d :: ':' :: e :: f :: rest =>
      isHourMinute a b c d && (number? [e, f]).any (· ≤ 60) &&
        match rest with
        | [] => true
        | '.' :: fraction => !fraction.isEmpty && fraction.all Char.isDigit
        | _ => false
  | _ => false

def isTimeWithOffset (characters : List Char) : Bool :=
  let isOffsetMark (character : Char) : Bool :=
    character = 'Z' || character = 'z' || character = '+' || character = '-'
  isTime (characters.takeWhile (!isOffsetMark ·)) &&
    match characters.dropWhile (!isOffsetMark ·) with
    | [] => true
    | ['Z'] => true
    | ['z'] => true
    | [_, a, b, ':', c, d] => isHourMinute a b c d
    | _ => false

def isDatetime (word : List Char) : Bool :=
  isDate word || isTime word ||
    (isDate (word.take 10) &&
      match word.drop 10 with
      | mark :: time => (mark = 'T' || mark = 't' || mark = ' ') && isTimeWithOffset time
      | [] => false)

/-! ## Words -/

def isWordCharacter (character : Char) : Bool :=
  character.isAlphanum || character = '_' || character = '-' || character = '+' ||
    character = '.' || character = ':'

/-- The word at the front. A blank between a date and a digit belongs to it. -/
def takeWord (characters : List Char) : List Char × List Char :=
  let word := characters.takeWhile isWordCharacter
  let rest := characters.dropWhile isWordCharacter
  match isDate word, rest with
  | true, ' ' :: digit :: behind =>
      if digit.isDigit then
        (word ++ ' ' :: (digit :: behind).takeWhile isWordCharacter,
          (digit :: behind).dropWhile isWordCharacter)
      else
        (word, rest)
  | _, _ => (word, rest)

def scalar? (word : List Char) : Option Value :=
  if word = "true".toList then some (.boolean true)
  else if word = "false".toList then some (.boolean false)
  else if isDatetime word then some (.datetime (String.ofList word))
  else if isFloat word then some (.float (String.ofList word))
  else (integer? word).map .integer

end ClockDiscipline.Toml
