import ClockDiscipline.Proofs.Binary64
import ClockDiscipline.Proofs.Checked.Rates
import Mathlib.Tactic.Ring

/-!
What an adjustment carries of the rate it is for: the parts per million that the rate was
cut to, a hundred of them for each step of the tick and one to a hundred of them in the
frequency, all of them in the direction of the rate.
-/

namespace ClockDiscipline.Adjustment

open Binary64 Float.Model

/-! ## Hundreds of parts, one at a time -/

/-- One more step of the tick for a hundred parts, as long as more than a hundred are
left. -/
def moveHundreds (direction tick : Int) (parts : Nat) : Adjustment :=
  if partsPerTick < parts then
    moveHundreds direction (tick + direction) (parts - partsPerTick)
  else
    ⟨tick, parts * frequencyScale * direction⟩
termination_by parts
decreasing_by
  unfold partsPerTick at *
  omega

private theorem moveHundreds_eq (direction tick : Int) (parts : Nat) :
    moveHundreds direction tick parts =
      ⟨tick + direction * ((parts - 1) / partsPerTick : Nat),
        (parts - (parts - 1) / partsPerTick * partsPerTick : Nat) *
          frequencyScale * direction⟩ := by
  induction tick, parts using moveHundreds.induct direction with
  | case1 tick parts more moved =>
      have steps : (parts - 1) / partsPerTick =
          (parts - partsPerTick - 1) / partsPerTick + 1 := by
        unfold partsPerTick at *
        omega
      have left : parts - ((parts - partsPerTick - 1) / partsPerTick + 1) * partsPerTick =
          parts - partsPerTick - (parts - partsPerTick - 1) / partsPerTick *
            partsPerTick := by
        rw [Nat.succ_mul]
        omega
      rw [moveHundreds, if_pos more, moved, steps, left, Nat.cast_succ, Int.mul_add,
        Int.mul_one]
      congr 1
      omega
  | case2 tick parts few =>
      have steps : (parts - 1) / partsPerTick = 0 := by
        unfold partsPerTick at *
        omega
      rw [moveHundreds, if_neg few, steps]
      simp only [Nat.cast_zero, Int.mul_zero, Int.add_zero, Nat.zero_mul, Nat.sub_zero]

/-- An adjustment that carries so many parts in a direction. -/
structure Carries (adjustment : Adjustment) (direction : Int) (parts : Nat) : Prop where
  moved : adjustment = moveHundreds direction nominalTick parts
  left : 0 < parts → ∃ remaining : Nat, 1 ≤ remaining ∧ remaining ≤ partsPerTick ∧
    adjustment.frequency = remaining * frequencyScale * direction
  together : 0 ≤ (adjustment.tick - nominalTick) * adjustment.frequency
  whole : (adjustment.tick - nominalTick) * partsPerTick * frequencyScale +
    adjustment.frequency =
    direction * parts * frequencyScale

private theorem carries_ofParts {direction : Int} (turns : direction = 1 ∨ direction = -1)
    (parts : Nat) :
    (ofParts direction parts).Carries direction parts := by
  have square : direction * direction = 1 := by
    rcases turns with rfl | rfl <;> rfl
  constructor
  case moved => exact (moveHundreds_eq direction nominalTick parts).symm
  case left =>
    intro some
    refine ⟨parts - (parts - 1) / partsPerTick * partsPerTick, ?_, ?_, rfl⟩
    · unfold partsPerTick at *
      omega
    · unfold partsPerTick at *
      omega
  case together =>
    rw [tick_ofParts]
    simp only [ofParts]
    generalize (parts - 1) / partsPerTick = steps at *
    generalize parts - steps * partsPerTick = remaining
    calc (0 : Int) ≤ (steps * (remaining * frequencyScale) : Nat) := Int.natCast_nonneg _
      _ = (direction * direction) * (steps * (remaining * frequencyScale)) := by
          rw [square, Int.one_mul]
          push_cast
          rfl
      _ = direction * steps * (remaining * frequencyScale * direction) := by ring
  case whole =>
    rw [tick_ofParts]
    simp only [ofParts]
    rw [Int.ofNat_sub (hundreds_le parts)]
    push_cast
    ring

/-! ## Opposite rates -/

def mirrored (adjustment : Adjustment) : Adjustment :=
  ⟨2 * nominalTick - adjustment.tick, -adjustment.frequency⟩

private theorem ofParts_neg (direction : Int) (parts : Nat) :
    ofParts (-direction) parts = (ofParts direction parts).mirrored := by
  simp only [mirrored, ofParts, Int.neg_mul, Int.mul_neg]
  congr 1
  omega

private theorem ofParts_zero (direction : Int) : ofParts direction 0 = nominal := by
  unfold ofParts nominal
  simp

section Rate

variable (rate : Float)

private theorem partsPerMillion_eq :
    partsPerMillion rate = truncated signedMaximum (contents (rate * 1000000.0)) := by
  unfold partsPerMillion
  rw [toNat_toUInt64_abs, min_truncated (by decide)]

private theorem partsPerMillion_neg : partsPerMillion (-rate) = partsPerMillion rate := by
  rw [partsPerMillion_eq, partsPerMillion_eq, contents_neg_mul, truncated_neg]

private theorem direction_eq :
    direction rate =
      if UnpackedFloat.le (.zero .positive) (contents rate) then 1 else -1 := by
  exact if_congr (zero_le_iff rate) rfl rfl

private theorem direction_neg_or_partsPerMillion_eq_zero :
    direction (-rate) = -direction rate ∨ partsPerMillion rate = 0 := by
  rw [direction_eq, direction_eq, contents_neg, partsPerMillion_eq, contents_mul]
  cases contents rate with
  | notANumber => exact .inr rfl
  | zero sign =>
      right
      cases sign <;> rfl
  | infinity sign =>
      left
      cases sign <;> rfl
  | finite sign mantissa exponent positive =>
      left
      cases sign <;> rfl

private theorem ofRate_neg : ofRate (-rate) = (ofRate rate).mirrored := by
  unfold ofRate
  rw [partsPerMillion_neg]
  obtain turned | none := direction_neg_or_partsPerMillion_eq_zero rate
  · rw [turned, ofParts_neg]
  · rw [none, ofParts_zero, ofParts_zero]
    rfl

/-- Whatever the rate, its adjustment carries the parts that it is cut to, can be computed
and turned back with signed quantities, and is the mirror image of the adjustment for the
opposite rate. -/
theorem ofRate_carriesParts :
    partsPerMillion rate = truncated signedMaximum (contents (rate * 1000000.0)) ∧
      compute (direction rate) (partsPerMillion rate) = .ok (ofRate rate) ∧
      (ofRate rate).Carries (direction rate) (partsPerMillion rate) ∧
      (ofRate rate).rate? = .ok (ofRate rate).rate ∧
      ofRate (-rate) = (ofRate rate).mirrored := by
  refine ⟨partsPerMillion_eq rate, compute_ofRate rate, ?_, rate?_ofRate rate,
    ofRate_neg rate⟩
  exact carries_ofParts (direction_cases rate) (partsPerMillion rate)

end Rate

end ClockDiscipline.Adjustment
