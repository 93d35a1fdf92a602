/-!
Numbers as programs read them: an optional sign and digits, behind blanks. Digits are
decimal; where the beginning tells the base, they are hexadecimal behind `0x` and octal
behind `0`.
-/

namespace ClockDiscipline.Number

def largest : Nat := 0x7fffffffffffffff

def range : Nat := 0x10000000000000000

def isBlank (character : Char) : Bool :=
  character = ' ' || ('\t' ≤ character && character ≤ '\r')

def digitValue (character : Char) : Nat :=
  if character.isDigit then character.toNat - '0'.toNat
  else if 'a' ≤ character ∧ character ≤ 'f' then character.toNat - 'a'.toNat + 10
  else if 'A' ≤ character ∧ character ≤ 'F' then character.toNat - 'A'.toNat + 10
  else 16

def ofDigits (base : Nat) (digits : List Char) : Nat :=
  digits.foldl (fun value digit => value * base + digitValue digit) 0

def takeInBase (base : Nat) (characters : List Char) : Nat × List Char :=
  let digits := characters.takeWhile fun character => digitValue character < base
  (ofDigits base digits, characters.drop digits.length)

def take (characters : List Char) : Nat × List Char :=
  match characters with
  | '0' :: mark :: digit :: rest =>
      if (mark = 'x' ∨ mark = 'X') ∧ digitValue digit < 16 then
        takeInBase 16 (digit :: rest)
      else takeInBase 8 characters
  | '0' :: _ => takeInBase 8 characters
  | _ => takeInBase 10 characters

structure Reading where
  isNegative : Bool
  magnitude : Nat
  rest : List Char
  deriving DecidableEq, Repr

namespace Reading

/-- The number as one of 64 bits with a sign. One that is too large is cut to the
nearest. -/
def signed (reading : Reading) : Int :=
  if reading.isNegative then -(min reading.magnitude (largest + 1) : Nat)
  else (min reading.magnitude largest : Nat)

/-- The number as one of 64 bits without a sign. A negative one counts from the top. -/
def unsigned (reading : Reading) : Nat :=
  if range ≤ reading.magnitude then range - 1
  else if reading.isNegative then (range - reading.magnitude) % range
  else reading.magnitude

def isTooLarge (reading : Reading) : Bool :=
  if reading.isNegative then largest + 1 < reading.magnitude
  else largest < reading.magnitude

end Reading

def read? (isDecimal : Bool) (characters : List Char) : Option Reading :=
  let characters := characters.dropWhile isBlank
  let (isNegative, digits) := match characters with
    | '-' :: rest => (true, rest)
    | '+' :: rest => (false, rest)
    | rest => (false, rest)
  if digits.head?.any Char.isDigit then
    let (magnitude, rest) := if isDecimal then takeInBase 10 digits else take digits
    some ⟨isNegative, magnitude, rest⟩
  else none

example : take "0x1fg".toList = (31, ['g']) ∧ take "018".toList = (1, ['8']) ∧
    (read? false " -12x".toList) = some ⟨true, 12, ['x']⟩ := by decide +kernel

end ClockDiscipline.Number
