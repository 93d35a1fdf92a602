/-!
Decimal text with a fixed number of places. A binary64 number is decoded into an exact
quotient, rounded once to the nearest decimal, and a tie goes to the even digit.
-/

namespace ClockDiscipline.Decimal

/-! ## Rounding a quotient -/

/-- The natural number nearest to `numerator / denominator`; of two nearest, the even
one. -/
def roundQuotient (numerator denominator : Nat) : Nat :=
  let quotient := numerator / denominator
  let remainder := numerator % denominator
  if denominator < 2 * remainder ∨ (2 * remainder = denominator ∧ quotient % 2 = 1) then
    quotient + 1
  else
    quotient

example : roundQuotient 5 2 = 2 ∧ roundQuotient 7 2 = 4 ∧ roundQuotient 8 3 = 3 := by
  decide

/-! ## Binary numbers -/

structure Binary where
  negative : Bool
  mantissa : Nat
  exponent : Int
  deriving DecidableEq, Repr

def Binary.ofBits (bits : Nat) : Binary :=
  let hidden := Nat.pow 2 52
  let field := bits / hidden % Nat.pow 2 11
  let fraction := bits % hidden
  let negative := bits / Nat.pow 2 63 % 2 == 1
  if field = 0 then ⟨negative, fraction, -1074⟩
  else ⟨negative, fraction + hidden, (field : Int) - 1075⟩

def Binary.scaled (number : Binary) (places : Nat) : Nat :=
  match number.exponent with
  | .ofNat exponent => number.mantissa * Nat.pow 10 places * Nat.pow 2 exponent
  | .negSucc below =>
      roundQuotient (number.mantissa * Nat.pow 10 places) (Nat.pow 2 (below + 1))

/-! ## Text -/

def padded (width amount : Nat) : String :=
  let digits := Nat.toDigits 10 amount
  String.ofList (List.replicate (width - digits.length) '0' ++ digits)

def paddedSigned (width : Nat) (value : Int) : String :=
  if value < 0 then "-" ++ padded (width - 1) value.natAbs else padded width value.natAbs

example : paddedSigned 6 (-5) = "-00005" ∧ paddedSigned 6 1234567 = "1234567" := by
  decide +kernel

/-- A number with `places` digits behind the point, at least one. Zero keeps its sign. -/
def fixed (places : Nat) (number : Float) : String :=
  if number.isNaN then "NaN"
  else
    let binary := Binary.ofBits number.toBits.toNat
    let sign := if binary.negative then "-" else ""
    if number.isInf then sign ++ "inf"
    else
      let unit := Nat.pow 10 places
      let scaled := binary.scaled places
      sign ++ toString (scaled / unit) ++ "." ++ padded places (scaled % unit)

example : (Binary.ofBits 0x3f80000000000000).scaled 6 = 7812 := by decide +kernel

end ClockDiscipline.Decimal
