import ClockDiscipline.Decimal.Fixed
import ClockDiscipline.Host.Program.Number

/-!
How values are set in a format: with a width, a precision and flags. Numbers with a
fraction are binary64 numbers, whose exact values are rounded to the digits that are asked
for.
-/

namespace ClockDiscipline

structure Layout where
  isLeft : Bool
  hasPlus : Bool
  hasBlank : Bool
  isAlternate : Bool
  hasZeros : Bool
  width : Nat
  precision : Option Nat
  deriving DecidableEq, Repr

namespace Layout

/-- Fill up to the width. Zeros stand between `front` and `body`, blanks around both. -/
def fill (layout : Layout) (hasZeros : Bool) (front body : String) : String :=
  let missing := layout.width - (front.length + body.length)
  if layout.isLeft then (front ++ body).pushn ' ' missing
  else if hasZeros then front.pushn '0' missing ++ body
  else "".pushn ' ' missing ++ front ++ body

def text (layout : Layout) (value : String) : String :=
  layout.fill false "" <| match layout.precision with
    | some precision => (value.take precision).toString
    | none => value

def sign (layout : Layout) (isNegative : Bool) : String :=
  if isNegative then "-" else if layout.hasPlus then "+" else if layout.hasBlank then " "
  else ""

/-- A whole number by its digits and what stands before them. `startsWithZero` says that
the first digit has to be a zero. -/
def digits (layout : Layout) (startsWithZero : Bool) (front digits : String) : String :=
  let digits := if digits = "0" then "" else digits
  let digits := "".pushn '0' (layout.precision.getD 1 - digits.length) ++ digits
  let digits := if startsWithZero && !digits.startsWith "0" then "0" ++ digits else digits
  layout.fill (layout.hasZeros && layout.precision.isNone) front digits

def signed (layout : Layout) (value : Int) : String :=
  layout.digits false (layout.sign (value < 0)) (toString value.natAbs)

def unsigned (layout : Layout) (base value : Nat) : String :=
  layout.digits (layout.isAlternate && base = 8)
    (if layout.isAlternate ∧ base = 16 ∧ value ≠ 0 then "0x" else "")
    (String.ofList (Nat.toDigits base value))

/-! ## Numbers with a fraction -/

inductive Style where
  | positional
  | scientific
  | general
  | hexadecimal
  deriving DecidableEq, Repr

def inUnits (number : Decimal.Binary) (power : Int) : Nat :=
  let up (base : Nat) (exponent : Int) : Nat := Nat.pow base exponent.toNat
  Decimal.roundQuotient
    (number.mantissa * up 2 number.exponent * up 10 (-power))
    (up 2 (-number.exponent) * up 10 power)

def leadingPower (number : Decimal.Binary) : Int :=
  if number.mantissa = 0 then 0
  else
    let scaled :=
      number.mantissa * Nat.pow 2 (number.exponent + 1100).toNat * Nat.pow 10 350
      / Nat.pow 2 1100
    ((Nat.toDigits 10 scaled).length : Int) - 351

/-- A point and the digits behind it. A point without digits is left out unless it is
asked for. -/
def withPoint (isAlternate : Bool) (whole behind : String) : String :=
  if behind = "" && !isAlternate then whole else whole ++ "." ++ behind

def withoutLastZeros (digits : String) : String :=
  String.ofList (digits.toList.reverse.dropWhile (· = '0')).reverse

def exponentText (exponent : Int) : String :=
  (if exponent < 0 then "-" else "+") ++ Decimal.padded 2 exponent.natAbs

/-- The first `places + 1` digits of a number, and the power of ten of the first. -/
def significant (number : Decimal.Binary) (places : Nat) : String × Int :=
  let power := leadingPower number
  let digits := inUnits number (power - places)
  if Nat.pow 10 (places + 1) ≤ digits then
    (Decimal.padded (places + 1) (inUnits number (power + 1 - places)), power + 1)
  else (Decimal.padded (places + 1) digits, power)

def positionalText (isAlternate keepsZeros : Bool) (places : Nat)
    (number : Decimal.Binary) : String :=
  let units := inUnits number (-places)
  let unit := Nat.pow 10 places
  let behind := if places = 0 then "" else Decimal.padded places (units % unit)
  withPoint isAlternate (toString (units / unit))
    (if keepsZeros then behind else withoutLastZeros behind)

def scientificText (isAlternate keepsZeros : Bool) (places : Nat)
    (number : Decimal.Binary) : String :=
  let (digits, power) := significant number places
  let behind := (digits.drop 1).toString
  withPoint isAlternate (digits.take 1).toString
    (if keepsZeros then behind else withoutLastZeros behind) ++ "e" ++ exponentText power

def fractionBits : Nat := 52

def hexadecimalText (isAlternate : Bool) (precision : Option Nat)
    (number : Decimal.Binary) : String :=
  let unit := Nat.pow 2 fractionBits
  let exponent := if number.mantissa = 0 then 0 else number.exponent + fractionBits
  let (whole, behind) := match precision with
    | none => (number.mantissa / unit,
        withoutLastZeros
          (String.ofList (Nat.toDigits 16 (unit + number.mantissa % unit)).tail))
    | some places =>
        if 13 ≤ places then (number.mantissa / unit,
          (String.ofList (Nat.toDigits 16 (unit + number.mantissa % unit)).tail).pushn '0'
            (places - 13))
        else
          let rounded := Decimal.roundQuotient number.mantissa (Nat.pow 16 (13 - places))
          let unit := Nat.pow 16 places
          (rounded / unit, String.ofList (Nat.toDigits 16 (unit + rounded % unit)).tail)
  withPoint isAlternate (toString whole) behind ++ "p" ++
    (if exponent < 0 then "-" else "+") ++
    toString exponent.natAbs

def fractionText (layout : Layout) (style : Style) (number : Decimal.Binary) : String :=
  let places := layout.precision.getD 6
  match style with
  | .positional => positionalText layout.isAlternate true places number
  | .scientific => scientificText layout.isAlternate true places number
  | .hexadecimal => hexadecimalText layout.isAlternate layout.precision number
  | .general =>
      let places := places - 1
      let (_, power) := significant number places
      if -4 ≤ power ∧ power ≤ places then
        positionalText layout.isAlternate layout.isAlternate (places - power).toNat number
      else scientificText layout.isAlternate layout.isAlternate places number

def fraction (layout : Layout) (style : Style) (isUpper : Bool) (value : Float) :
    String :=
  let number := Decimal.Binary.ofBits value.toBits.toNat
  let cased (text : String) : String := if isUpper then text.toUpper else text
  let front := layout.sign number.negative
  if value.isNaN then layout.fill false front (cased "nan")
  else if value.isInf then layout.fill false front (cased "inf")
  else
    layout.fill layout.hasZeros
      (front ++ cased (if style = .hexadecimal then "0x" else ""))
      (cased (layout.fractionText style number))

end Layout

end ClockDiscipline
