import ClockDiscipline.Adjustment
import ClockDiscipline.Agreement
import ClockDiscipline.Proofs.Checked.Basic

/-!
Samples and rates with checks. A sample is written to a slot that exists, and a rate of
whatever size is turned into an adjustment, and back, without leaving the signed
quantities.
-/

namespace ClockDiscipline

namespace Agreement

/-! ## Slots -/

structure Cells where
  samples : Array Float
  index : Nat
  count : Nat

/-- One sample more, as long as there are slots that none was given to. -/
def grow (count : Nat) : Except Fault Nat :=
  if count < agreementSize then Checked.add count 1 else .ok count

def Cells.insert (cells : Cells) (sample : Float) : Except Fault Cells := do
  let samples ← Checked.write cells.samples cells.index sample
  let behind ← Checked.add cells.index 1
  let index ← Checked.mod behind agreementSize
  let count ← grow cells.count
  return ⟨samples, index, count⟩

variable (agreement : Agreement)

def cells : Cells := ⟨agreement.samples.toArray, agreement.index.val, agreement.count⟩

theorem insert_cells (sample : Float) :
    agreement.cells.insert sample = .ok (agreement.insert sample).cells := by
  have slot : agreement.index.val < agreement.samples.toArray.size := by simp
  have small : agreementSize < unsignedLimit := by decide
  have behind : Checked.add agreement.index.val 1 = .ok (agreement.index.val + 1) :=
    Checked.add_eq (by omega)
  have round : Checked.mod (agreement.index.val + 1) agreementSize =
      .ok (agreement.index + 1).val := Checked.mod_eq (by decide)
  have counted : grow agreement.count = .ok (agreement.insert sample).count := by
    simp only [insert, grow]
    by_cases free : agreement.count < agreementSize
    · have fits : agreement.count + 1 < unsignedLimit := by omega
      rw [if_pos free, if_pos free, Checked.add_eq fits]
    · rw [if_neg free, if_neg free]
  simp only [Cells.insert, cells, Checked.write_eq slot, behind, round, counted, bind,
    Except.bind]
  rfl

end Agreement

namespace Adjustment

/-! ## From a rate and back -/

def compute (direction parts : Int) : Except Fault Adjustment := do
  let less ← Checked.signed .subtraction (parts - 1)
  let steps := max less 0 / partsPerTick
  let coarse ← Checked.signed .multiplication (steps * partsPerTick)
  let fine ← Checked.signed .subtraction (parts - coarse)
  let turned ← Checked.signed .multiplication (direction * steps)
  let tick ← Checked.signed .addition (nominalTick + turned)
  let scaled ← Checked.signed .multiplication (fine * frequencyScale)
  let frequency ← Checked.signed .multiplication (scaled * direction)
  return ⟨tick, frequency⟩

/-- Every step keeps within the parts that there are. -/
private theorem compute_of_hundreds {direction : Int} {parts hundreds fine : Nat}
    (turns : direction = 1 ∨ direction = -1) (bounded : parts ≤ signedMaximum)
    (steps : max ((parts : Int) - 1) 0 / (partsPerTick : Int) = hundreds)
    (whole : parts = hundreds * partsPerTick + fine) (small : fine ≤ partsPerTick) :
    compute direction parts =
      .ok ⟨nominalTick + direction * hundreds, fine * frequencyScale * direction⟩ := by
  have hundred : (partsPerTick : Int) = 100 := rfl
  have limit : (signedMaximum : Int) = 0x7fffffffffffffff := rfl
  have nominal : nominalTick = 10000 := rfl
  have whole : (parts : Int) = hundreds * 100 + fine := by
    unfold partsPerTick at whole
    omega
  have scaledFine : (fine : Int) * frequencyScale = fine * 65536 := rfl
  have less : Checked.signed .subtraction ((parts : Int) - 1) = .ok _ :=
    Checked.signed_eq ⟨by omega, by omega⟩
  have coarse : Checked.signed .multiplication ((hundreds : Int) * partsPerTick) =
      .ok _ :=
    Checked.signed_eq ⟨by omega, by omega⟩
  have left : Checked.signed .subtraction ((parts : Int) - hundreds * partsPerTick) =
      .ok fine := by
    have remains : (parts : Int) - hundreds * partsPerTick = fine := by omega
    rw [remains]
    exact Checked.signed_eq ⟨by omega, by omega⟩
  have turned : Checked.signed .multiplication (direction * hundreds) = .ok _ :=
    Checked.signed_eq (by rcases turns with rfl | rfl <;> constructor <;> omega)
  have tick : Checked.signed .addition (nominalTick + direction * hundreds) = .ok _ :=
    Checked.signed_eq (by rcases turns with rfl | rfl <;> constructor <;> omega)
  have scaled : Checked.signed .multiplication ((fine : Int) * frequencyScale) = .ok _ :=
    Checked.signed_eq ⟨by omega, by omega⟩
  have frequency :
      Checked.signed .multiplication ((fine : Int) * frequencyScale * direction) =
      .ok _ :=
    Checked.signed_eq (by rcases turns with rfl | rfl <;> constructor <;> omega)
  simp only [compute, Checked.ok_bind, less, steps, coarse, left, turned, tick, scaled,
    frequency]
  rfl

private theorem compute_eq {direction : Int} {parts : Nat}
    (turns : direction = 1 ∨ direction = -1) (bounded : parts ≤ signedMaximum) :
    compute direction parts = .ok (ofParts direction parts) := by
  refine compute_of_hundreds turns bounded ?_ ?_ ?_ <;> unfold partsPerTick <;> omega

theorem tick_ofParts (direction : Int) (parts : Nat) :
    (ofParts direction parts).tick - nominalTick =
      direction * ((parts - 1) / partsPerTick : Nat) := by
  simp only [ofParts]
  omega

theorem hundreds_le (parts : Nat) : (parts - 1) / partsPerTick * partsPerTick ≤ parts :=
  Nat.le_trans (Nat.div_mul_le_self _ _) (Nat.sub_le _ _)

private theorem rate?_ofParts {direction : Int} {parts : Nat}
    (turns : direction = 1 ∨ direction = -1) (bounded : parts ≤ signedMaximum) :
    (ofParts direction parts).rate? = .ok (ofParts direction parts).rate := by
  have limit : (signedMaximum : Int) = 0x7fffffffffffffff := rfl
  have within := hundreds_le parts
  unfold rate?
  rw [tick_ofParts]
  generalize (parts - 1) / partsPerTick = hundreds at within
  have hundred : direction * hundreds * partsPerTick = direction * hundreds * 100 := rfl
  have scaled : (hundreds * partsPerTick : Nat) = hundreds * 100 := rfl
  have step : requireSigned .subtraction (direction * hundreds) =
      .ok (direction * hundreds) :=
    requireSigned_eq_ok_iff.mpr
      ⟨by rcases turns with rfl | rfl <;> constructor <;> omega, rfl⟩
  have product : requireSigned .multiplication (direction * hundreds * partsPerTick) =
      .ok _ :=
    requireSigned_eq_ok_iff.mpr
      ⟨by rcases turns with rfl | rfl <;> constructor <;> omega, rfl⟩
  simp only [step, product, Checked.ok_bind]
  rfl

section Rate

variable (value : Float)

theorem direction_cases : direction value = 1 ∨ direction value = -1 := by
  unfold direction
  split
  · exact .inl rfl
  · exact .inr rfl

private theorem partsPerMillion_le :
    partsPerMillion value ≤ signedMaximum := Nat.min_le_right _ _

/-- Any rate has an adjustment, not-a-number included. -/
theorem compute_ofRate :
    compute (direction value) (partsPerMillion value) = .ok (ofRate value) :=
  compute_eq (direction_cases value) (partsPerMillion_le value)

theorem rate?_ofRate : (ofRate value).rate? = .ok (ofRate value).rate :=
  rate?_ofParts (direction_cases value) (partsPerMillion_le value)

end Rate

end Adjustment

end ClockDiscipline
