/-!
Arithmetic that leaves the 64-bit range stops the operation that needed it. Instants and
delays are unsigned, rate parameters are signed.
-/

namespace ClockDiscipline

/-- The arithmetic step whose exact result has no 64-bit representation. -/
inductive Overflow where
  | addition
  | subtraction
  | multiplication
  deriving DecidableEq, Repr

namespace Overflow

def message : Overflow → String
  | addition => "attempt to add with overflow"
  | subtraction => "attempt to subtract with overflow"
  | multiplication => "attempt to multiply with overflow"

end Overflow

/-! ## Unsigned quantities -/

def unsignedLimit : Nat := 0x10000000000000000

def addUnsigned (left right : Nat) : Except Overflow Nat :=
  if left + right < unsignedLimit then .ok (left + right) else .error .addition

theorem addUnsigned_eq_ok_iff {left right sum : Nat} :
    addUnsigned left right = .ok sum ↔
      left + right < unsignedLimit ∧ left + right = sum := by
  by_cases fits : left + right < unsignedLimit <;> simp [addUnsigned, fits]

example : addUnsigned (2 ^ 64 - 6) 5 = .ok (2 ^ 64 - 1) := rfl
example : addUnsigned (2 ^ 64 - 5) 5 = .error .addition := rfl

/-! ## Signed quantities -/

def signedMaximum : Nat := 0x7fffffffffffffff

def FitsSigned (value : Int) : Prop :=
  -0x8000000000000000 ≤ value ∧ value < 0x8000000000000000

instance (value : Int) : Decidable (FitsSigned value) :=
  inferInstanceAs (Decidable (_ ∧ _))

/-- Keep an exact result that is a signed quantity, and name the step that failed
otherwise. -/
def requireSigned (step : Overflow) (value : Int) : Except Overflow Int :=
  if FitsSigned value then .ok value else .error step

theorem requireSigned_eq_ok_iff {step : Overflow} {value result : Int} :
    requireSigned step value = .ok result ↔ FitsSigned value ∧ value = result := by
  by_cases fits : FitsSigned value <;> simp [requireSigned, fits]

end ClockDiscipline
