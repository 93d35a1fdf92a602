import Mathlib

/-!
Signs and whole parts of binary64 numbers. Negation turns the sign of what a number is
made of and nothing else, so products and magnitudes follow it, and the whole part of a
magnitude is the floor of an exact rational number. Nothing is close to what is not a
number.
-/

namespace ClockDiscipline.Binary64

open Float.Model Float.Model.UnpackedFloat

/-! ## The sign of a word -/

abbrev Word := BitVec Format.binary64.numBits

abbrev ofWord (word : Word) : UnpackedFloat := UnpackedFloat.unpack .binary64 word

abbrev toWord (value : UnpackedFloat) : Word := UnpackedFloat.pack .binary64 value

abbrev assemble (sign : Sign) (exponent : BitVec 11) (mantissa : BitVec 52) : Word :=
  packComponents .binary64 sign exponent mantissa

/-- The sign bit stands for the sign and for nothing else. -/
private theorem ofWord_assemble_neg (sign : Sign) (exponent : BitVec 11)
    (mantissa : BitVec 52) :
    ofWord (assemble (-sign) exponent mantissa) =
      (ofWord (assemble sign exponent mantissa)).neg := by
  simp only [ofWord, UnpackedFloat.unpack, unpackExponent_packComponents,
    unpackMantissa_packComponents, unpackSign_packComponents, Sign.ofBitVec_toBitVec]
  split
  · split <;> rfl
  · split
    · split <;> rfl
    · rfl

private theorem ofWord_toWord_neg (value : UnpackedFloat) :
    ofWord (toWord value.neg) = (ofWord (toWord value)).neg := by
  cases value with
  | notANumber => rfl
  | infinity sign => exact ofWord_assemble_neg sign _ _
  | zero sign => exact ofWord_assemble_neg sign _ _
  | finite sign mantissa exponent positive =>
      simp only [UnpackedFloat.neg, toWord, UnpackedFloat.pack]
      split
      · exact ofWord_assemble_neg sign _ _
      · split
        · exact ofWord_assemble_neg sign _ _
        · exact ofWord_assemble_neg sign _ _

/-! ## Negation, products and magnitudes -/

def contents (number : Float) : UnpackedFloat := number.toModel.unpack

private theorem ofWord_toWord_contents (number : Float) :
    ofWord (toWord (contents number)) = contents number :=
  congrArg ofWord (pack_unpack_of_valid number.toModel.valid)

theorem contents_neg (number : Float) : contents (-number) = (contents number).neg := by
  have unpacked := ofWord_toWord_neg (contents number)
  rwa [ofWord_toWord_contents] at unpacked

private theorem abs_eq_or_neg (value : UnpackedFloat) :
    value.abs = value ∨ value.abs = value.neg := by
  cases value with
  | notANumber => exact .inl rfl
  | infinity sign => cases sign with
    | negative => exact .inr rfl
    | positive => exact .inl rfl
  | zero sign => cases sign with
    | negative => exact .inr rfl
    | positive => exact .inl rfl
  | finite sign mantissa exponent positive => cases sign with
    | negative => exact .inr rfl
    | positive => exact .inl rfl

private theorem contents_abs (number : Float) :
    contents number.abs = (contents number).abs := by
  have unpacked : contents number.abs = ofWord (toWord (contents number).abs) := rfl
  rw [unpacked]
  obtain same | turned := abs_eq_or_neg (contents number)
  · rw [same, ofWord_toWord_contents]
  · rw [turned, ofWord_toWord_neg, ofWord_toWord_contents]

private theorem neg_mul_sign (left right : Sign) : -left * right = -(left * right) := by
  cases left <;> cases right <;> rfl

private theorem roundWithAccuracy_neg (format : Format) (sign : Sign) (mantissa : Nat)
    (exponent : Int) (accuracy : Accuracy) :
    roundWithAccuracy format (-sign) mantissa exponent accuracy =
      (roundWithAccuracy format sign mantissa exponent accuracy).neg := by
  unfold roundWithAccuracy
  dsimp only
  split <;> rfl

private theorem product_neg (format : Format) (left right : UnpackedFloat) :
    UnpackedFloat.mul format left.neg right =
      (UnpackedFloat.mul format left right).neg := by
  cases left <;> cases right <;>
    simp only [UnpackedFloat.neg, UnpackedFloat.mul, neg_mul_sign, roundWithAccuracy_neg]

theorem contents_mul (left right : Float) :
    contents (left * right) =
      ofWord (toWord (UnpackedFloat.mul .binary64 (contents left) (contents right))) :=
    rfl

theorem contents_neg_mul (left right : Float) :
    contents (-left * right) = (contents (left * right)).neg := by
  rw [contents_mul, contents_neg, product_neg, ofWord_toWord_neg, ← contents_mul]

private theorem le_iff (left right : Float) :
    left ≤ right ↔ UnpackedFloat.le (contents left) (contents right) = true := by
  have compared : left ≤ right ↔ decide (left.toModel ≤ right.toModel) = true := Iff.rfl
  rw [compared, decide_eq_true_iff]
  rfl

theorem zero_le_iff (number : Float) :
    (0.0 : Float) ≤ number ↔
      UnpackedFloat.le (.zero .positive) (contents number) = true :=
  le_iff 0.0 number

/-! ## Whole parts -/

/-- The magnitude of a number cut to a whole one, at most `limit`. Not-a-number has
none. -/
def truncated (limit : Nat) : UnpackedFloat → Nat
  | .notANumber => 0
  | .infinity _ => limit
  | .zero _ => 0
  | .finite _ mantissa exponent _ => min ⌊(mantissa : ℚ) * 2 ^ exponent⌋₊ limit

theorem truncated_neg (limit : Nat) (value : UnpackedFloat) :
    truncated limit value.neg = truncated limit value := by
  cases value <;> rfl

theorem min_truncated {least limit : Nat} (smaller : least ≤ limit)
    (value : UnpackedFloat) :
    min (truncated limit value) least = truncated least value := by
  cases value <;> simp only [truncated] <;> omega

private theorem mantissa_shiftRight (extended : ExtendedMantissa) (places : Nat) :
    (extended >>> places).mantissa = extended.mantissa / 2 ^ places := by
  induction places with
  | zero => exact (Nat.div_one _).symm
  | succ places shifted =>
      have once : (extended >>> (places + 1)).mantissa =
          (extended >>> places).mantissa / 2 := rfl
      rw [once, shifted, Nat.div_div_eq_div_mul, pow_succ]

private theorem floor_mul_two_zpow (mantissa : Nat) (exponent : Int) :
    ⌊(mantissa : ℚ) * 2 ^ exponent⌋₊ =
      mantissa * 2 ^ exponent.toNat / 2 ^ (-exponent).toNat := by
  obtain ⟨places, rfl | rfl⟩ := exponent.eq_nat_or_neg
  · have none : (-(places : Int)).toNat = 0 := by omega
    rw [none, Int.toNat_natCast, pow_zero, Nat.div_one, zpow_natCast]
    exact_mod_cast Nat.floor_natCast (mantissa * 2 ^ places)
  · have none : (-(places : Int)).toNat = 0 := by omega
    rw [none, neg_neg, Int.toNat_natCast, pow_zero, mul_one, zpow_neg, zpow_natCast,
      ← div_eq_mul_inv]
    exact_mod_cast Nat.floor_div_eq_div (K := ℚ) mantissa (2 ^ places)

private theorem roundToInt_positive (mantissa : Nat) (exponent : Int) :
    roundToInt .positive mantissa exponent = ⌊(mantissa : ℚ) * 2 ^ exponent⌋₊ := by
  have right : (0 - (exponent - ((exponent - 0).toNat : Int))).toNat =
      (-exponent).toNat := by
    omega
  simp only [roundToInt, decreaseExponent, shiftToExponent, right, mantissa_shiftRight]
  rw [floor_mul_two_zpow, Int.sub_zero]
  simp only [ExtendedMantissa.ofMantissaAndAccuracy, Sign.apply, Nat.shiftLeft_eq]

private theorem toNat_ofNatClamp (number : Nat) :
    (UInt64.ofNatClamp number).toNat = min number (UInt64.size - 1) := by
  unfold UInt64.ofNatClamp
  split
  case isTrue inside =>
    rw [UInt64.toNat_ofNatLT]
    omega
  case isFalse outside =>
    rw [UInt64.toNat_ofNatLT]
    omega

theorem toNat_toUInt64_abs (number : Float) :
    number.abs.toUInt64.toNat = truncated (UInt64.size - 1) (contents number) := by
  have unpacked : number.abs.toUInt64 = (contents number.abs).toUInt64 := rfl
  rw [unpacked, contents_abs, UnpackedFloat.toUInt64, toNat_ofNatClamp]
  cases contents number with
  | notANumber => rfl
  | infinity sign => rfl
  | zero sign => rfl
  | finite sign mantissa exponent positive =>
      simp only [UnpackedFloat.abs, UnpackedFloat.toInt, roundToInt_positive,
        Int.toNat_natCast, truncated]

/-! ## Not-a-number -/

private theorem contents_of_isNaN {number : Float} (nan : number.isNaN = true) :
    contents number = .notANumber :=
  UnpackedFloat.isNaN_iff.mp nan

private theorem contents_sub (left right : Float) :
    contents (left - right) =
      ofWord (toWord (UnpackedFloat.sub .binary64 (contents left) (contents right))) :=
    rfl

private theorem contents_sub_of_isNaN {left right : Float}
    (nan : left.isNaN = true ∨ right.isNaN = true) :
    contents (left - right) = .notANumber := by
  have none : UnpackedFloat.sub .binary64 (contents left) (contents right) =
      .notANumber := by
    rcases nan with first | second
    · rw [contents_of_isNaN first]
      cases contents right <;> rfl
    · rw [contents_of_isNaN second]
      cases contents left <;> rfl
  rw [contents_sub, none]
  rfl

/-- Nothing is close to what is not a number. -/
theorem not_abs_sub_le_of_isNaN {left right : Float}
    (nan : left.isNaN = true ∨ right.isNaN = true) (limit : Float) :
    ¬(left - right).abs ≤ limit := by
  rw [le_iff, contents_abs, contents_sub_of_isNaN nan]
  cases contents limit <;> exact Bool.false_ne_true

end ClockDiscipline.Binary64
