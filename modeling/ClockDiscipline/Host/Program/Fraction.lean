import ClockDiscipline.Host.Program.Number

/-!
Numbers with a fraction as programs read them: decimal with an optional power of ten,
hexadecimal with an optional power of two, and the names of what is no number or has no
end.
-/

namespace ClockDiscipline.Fraction

structure Reading where
  value : Float
  isOutOfRange : Bool
  rest : List Char

/-- Digits in a base around an optional point as a number, how many stand behind the
point, and what follows; nothing where there are none. -/
def takeDigits? (base : Nat) (characters : List Char) : Option (Nat × Nat × List Char) :=
  let isDigit (character : Char) : Bool := Number.digitValue character < base
  let whole := characters.takeWhile isDigit
  let (behind, rest) := match characters.drop whole.length with
    | '.' :: rest => (rest.takeWhile isDigit, rest.dropWhile isDigit)
    | rest => ([], rest)
  if whole.isEmpty && behind.isEmpty then none
  else some (Number.ofDigits base (whole ++ behind), behind.length, rest)

def takeExponent (letter : Char) (characters : List Char) : Int × List Char :=
  match characters with
  | mark :: rest =>
      let (isNegative, digits) := match rest with
        | '-' :: digits => (true, digits)
        | '+' :: digits => (false, digits)
        | digits => (false, digits)
      if mark.toLower = letter ∧ digits.head?.any Char.isDigit then
        let (magnitude, rest) := Number.takeInBase 10 digits
        (if isNegative then -magnitude else magnitude, rest)
      else (0, characters)
  | [] => (0, [])

/-- Exponents beyond this one make no difference. -/
def exponentLimit : Nat := 100000

def leastNormal : Float := Float.ofScientific 22250738585072014 true 324

def decimal (mantissa : Nat) (exponent : Int) : Float :=
  let exponent := max (min exponent exponentLimit) (-exponentLimit)
  Float.ofScientific mantissa (exponent < 0) exponent.natAbs

def takeWord? (word : String) (characters : List Char) : Option (List Char) :=
  if String.ofList ((characters.take word.length).map Char.toLower) = word then
    some (characters.drop word.length)
  else none

def readMagnitude? (characters : List Char) : Option Reading :=
  let finite (value : Float) (isZero : Bool) (rest : List Char) : Option Reading :=
    some ⟨value, value.isInf || (!isZero && value < leastNormal), rest⟩
  match takeWord? "infinity" characters <|> takeWord? "inf" characters with
  | some rest => some ⟨1.0 / 0.0, false, rest⟩
  | none =>
      match takeWord? "nan" characters with
      | some rest => some ⟨0.0 / 0.0, false, rest⟩
      | none =>
          match takeWord? "0x" characters >>= takeDigits? 16 with
          | some (mantissa, behind, rest) =>
              let (exponent, rest) := takeExponent 'p' rest
              let exponent :=
                max (min exponent exponentLimit) (-exponentLimit) - 4 * behind
              finite (Float.scaleB (Float.ofNat mantissa) exponent) (mantissa = 0) rest
          | none =>
              match takeDigits? 10 characters with
              | some (mantissa, behind, rest) =>
                  let (exponent, rest) := takeExponent 'e' rest
                  finite (decimal mantissa (exponent - behind)) (mantissa = 0) rest
              | none => none

def read? (characters : List Char) : Option Reading :=
  match characters.dropWhile Number.isBlank with
  | '-' :: rest =>
      (readMagnitude? rest).map fun reading => { reading with value := -reading.value }
  | '+' :: rest => readMagnitude? rest
  | rest => readMagnitude? rest

end ClockDiscipline.Fraction
