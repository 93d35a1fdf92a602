import ClockDiscipline.Agreement
import Mathlib.Data.List.Rotate

/-!
What an agreement stands for. Since its last restart it was given a list of samples, of
which it keeps the last five, each in the slot of its number. Its verdict and its mean
depend on these samples alone, whatever stood in the slots before.
-/

namespace ClockDiscipline.Agreement

/-! ## Samples in their slots -/

/-- The last five samples in the order of the slots. Those that came after the last
complete round of five have wrapped to the front. -/
def inSlots (samples : List Float) : List Float :=
  (samples.drop (samples.length - agreementSize)).rotate
    (agreementSize - samples.length % agreementSize)

/-- Five samples were given, and neighbours in the slots differ by no more than the
tolerance. -/
def Agree (tolerance : Float) (samples : List Float) : Prop :=
  agreementSize ≤ samples.length ∧
    (inSlots samples).IsChain fun sample next => (sample - next).abs ≤ tolerance

instance (tolerance : Float) (samples : List Float) :
    Decidable (Agree tolerance samples) :=
  inferInstanceAs (Decidable (_ ∧ _))

def meanOf (samples : List Float) : Float := (inSlots samples).foldl (· + ·) (-0.0) / 5.0

example : inSlots [1, 2, 3, 4, 5, 6, 7] = [6, 7, 3, 4, 5] := rfl

theorem length_inSlots {samples : List Float} (full : agreementSize ≤ samples.length) :
    (inSlots samples).length = agreementSize := by
  simp only [inSlots, List.length_rotate, List.length_drop]
  omega

/-! ## An agreement since its restart -/

def given (agreement : Agreement) (samples : List Float) : Agreement :=
  samples.foldl insert agreement.restart

variable (agreement : Agreement) (samples : List Float)

theorem given_append (sample : Float) :
    agreement.given (samples ++ [sample]) = (agreement.given samples).insert sample := by
  simp [given]

@[simp] theorem tolerance_given :
    (agreement.given samples).tolerance = agreement.tolerance := by
  induction samples using List.reverseRecOn with
  | nil => rfl
  | append_singleton rest sample induction =>
      rw [given_append]
      exact induction

private theorem count_given :
    (agreement.given samples).count = min samples.length agreementSize := by
  induction samples using List.reverseRecOn with
  | nil => rfl
  | append_singleton rest sample induction =>
      rw [given_append]
      simp only [insert, induction, List.length_append, List.length_singleton]
      split <;> omega

private theorem index_given :
    (agreement.given samples).index.val = samples.length % agreementSize := by
  induction samples using List.reverseRecOn with
  | nil => rfl
  | append_singleton rest sample induction =>
      rw [given_append]
      simp only [insert, Fin.val_add, induction, List.length_append,
        List.length_singleton]
      exact (Nat.add_mod rest.length 1 agreementSize).symm

/-- A slot holds the latest sample whose number belongs to it, or what it held before. -/
theorem getElem_samples_given (slot : Nat) (inRange : slot < agreementSize) :
    (agreement.given samples).samples[slot] =
      if given : slot < samples.length then
        samples[samples.length - 1 - (samples.length - 1 - slot) % agreementSize]
      else agreement.samples[slot] := by
  induction samples using List.reverseRecOn with
  | nil => rfl
  | append_singleton rest sample induction =>
      have place := index_given agreement rest
      unfold agreementSize at place inRange
      simp only [given_append, insert, List.length_append, List.length_singleton,
        Nat.add_sub_cancel]
      -- The newest sample has taken the slot of its number, and the others are as they
      -- were.
      by_cases own : (agreement.given rest).index.val = slot
      · have reached : slot < rest.length + 1 := by omega
        have newest : rest.length - (rest.length - slot) % 5 = rest.length := by omega
        simp [own, reached, newest]
      · rw [Vector.getElem_set_ne _ _ own, induction]
        by_cases reached : slot < rest.length
        · have older : rest.length - (rest.length - slot) % 5 =
              rest.length - 1 - (rest.length - 1 - slot) % 5 := by omega
          have within : rest.length - 1 - (rest.length - 1 - slot) % 5 < rest.length := by
            omega
          simp [reached, Nat.lt_succ_of_lt reached, older,
            List.getElem_append_left within]
        · have unreached : ¬slot < rest.length + 1 := by omega
          simp [reached, unreached]

theorem toList_samples_given (full : agreementSize ≤ samples.length) :
    (agreement.given samples).samples.toList = inSlots samples := by
  apply List.ext_getElem
  · rw [length_inSlots full, Vector.length_toList]
  · intro slot inRange _
    rw [Vector.length_toList] at inRange
    have reached : slot < samples.length := by omega
    unfold agreementSize at full inRange
    rw [Vector.getElem_toList, getElem_samples_given agreement samples slot inRange,
      dif_pos reached]
    have span : samples.length - (samples.length - 5) = 5 := by omega
    simp only [inSlots, agreementSize, List.getElem_rotate, List.getElem_drop,
      List.length_drop, span]
    congr 1
    omega

private theorem all_neighbours_iff (tolerance : Float) (slots : List Float) :
    ((slots.zip slots.tail).all fun (sample, next) =>
      decide ((sample - next).abs ≤ tolerance)) =
        true ↔ slots.IsChain fun sample next => (sample - next).abs ≤ tolerance := by
  induction slots with
  | nil => simp
  | cons sample rest induction =>
      cases rest with
      | nil => simp
      | cons next rest =>
          rw [List.isChain_cons_cons, ← induction]
          simp

/-- The next sample is accepted if and only if it agrees with the four before it. -/
theorem consider_given_iff (sample : Float) :
    ((agreement.given samples).consider sample).1 = true ↔
      Agree agreement.tolerance (samples ++ [sample]) := by
  have extended : (agreement.given samples).insert sample =
      agreement.given (samples ++ [sample]) :=
        (given_append agreement samples sample).symm
  have enough (number : Nat) : min number agreementSize = agreementSize ↔
      agreementSize ≤ number := by omega
  simp only [consider, extended, isFull, count_given, Bool.and_eq_true, beq_iff_eq, Agree,
    enough]
  refine and_congr_right fun full => ?_
  rw [isSteady, toList_samples_given _ _ full, tolerance_given]
  exact all_neighbours_iff _ _

theorem mean_given (full : agreementSize ≤ samples.length) :
    (agreement.given samples).mean = meanOf samples := by
  rw [mean, toList_samples_given _ _ full, meanOf]

end ClockDiscipline.Agreement
