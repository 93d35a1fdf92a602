import ClockDiscipline.Proofs.Agreement
import ClockDiscipline.Proofs.Binary64

/-!
What an agreement answers over its history. It judges the samples given since the last
restart, each in the slot of its number: the samples in neighbouring slots are close to
each other. That leaves out the two arrivals between which the ring wraps, and compares
the newest with the oldest in their place.
-/

namespace ClockDiscipline.Agreement

/-! ## Histories -/

inductive Use where
  | consider (sample : Float)
  | restart

def use (agreement : Agreement) : Use → Agreement
  | .consider sample => (agreement.consider sample).2
  | .restart => agreement.restart

/-- A new agreement after some uses, oldest first. -/
def used (tolerance : Float) (uses : List Use) : Agreement :=
  uses.foldl use (new tolerance)

def verdict (tolerance : Float) (uses : List Use) (sample : Float) : Bool :=
  ((used tolerance uses).consider sample).1

def Use.sample? : Use → Option Float
  | .consider sample => some sample
  | .restart => none

def sinceRestart (uses : List Use) : List Float :=
  (uses.rtakeWhile (·.sample?.isSome)).filterMap Use.sample?

private theorem sinceRestart_consider (uses : List Use) (sample : Float) :
    sinceRestart (uses ++ [.consider sample]) = sinceRestart uses ++ [sample] := by
  rw [sinceRestart, List.rtakeWhile_concat_pos _ _ _ rfl, List.filterMap_append]
  rfl

private theorem sinceRestart_restart (uses : List Use) :
    sinceRestart (uses ++ [.restart]) = [] := by
  rw [sinceRestart, List.rtakeWhile_concat_neg _ _ _ Bool.false_ne_true]
  rfl

/-- An agreement in use is one that was started over, whatever stood in its slots then,
and given the samples since. -/
theorem exists_used_eq_given (tolerance : Float) (uses : List Use) :
    ∃ before : Agreement, before.tolerance = tolerance ∧
      used tolerance uses = before.given (sinceRestart uses) := by
  induction uses using List.reverseRecOn with
  | nil => exact ⟨new tolerance, rfl, rfl⟩
  | append_singleton uses newest induction =>
      rcases induction with ⟨before, same, reached⟩
      have next : used tolerance (uses ++ [newest]) =
          (before.given (sinceRestart uses)).use newest := by
        rw [← reached, used, List.foldl_append]
        rfl
      cases newest with
      | consider sample =>
          refine ⟨before, same, ?_⟩
          rw [next, sinceRestart_consider, given_append]
          rfl
      | restart =>
          refine ⟨before.given (sinceRestart uses),
            (before.tolerance_given _).trans same, ?_⟩
          rw [next, sinceRestart_restart]
          rfl

/-! ## Slots -/

/-- The latest sample whose number belongs to the slot. The first sample belongs to slot
zero. -/
def latestIn (samples : List Float) (slot : Nat) : Option Float :=
  (samples.zipIdx.filter fun (_, number) =>
    number % agreementSize = slot).getLast?.map Prod.fst

private theorem latestIn_append (samples : List Float) (sample : Float) (slot : Nat) :
    latestIn (samples ++ [sample]) slot =
      if samples.length % agreementSize = slot then some sample
      else latestIn samples slot := by
  rw [latestIn, List.zipIdx_append, List.filter_append]
  split
  · rename_i own
    simp [own]
  · rename_i other
    simp [other, latestIn]

private theorem latestIn_eq (samples : List Float) {slot : Nat}
    (inRange : slot < agreementSize)
    (reached : slot < samples.length) : latestIn samples slot =
      samples[samples.length - 1 - (samples.length - 1 - slot) % agreementSize]? := by
  unfold agreementSize at inRange ⊢
  induction samples using List.reverseRecOn with
  | nil => cases reached
  | append_singleton rest sample induction =>
      rw [List.length_append, List.length_singleton] at reached
      rw [latestIn_append, List.length_append, List.length_singleton, Nat.add_sub_cancel]
      unfold agreementSize
      by_cases own : rest.length % 5 = slot
      · have newest : rest.length - (rest.length - slot) % 5 = rest.length := by omega
        simp [own, newest]
      · have older : rest.length - (rest.length - slot) % 5 =
            rest.length - 1 - (rest.length - 1 - slot) % 5 := by omega
        have within : rest.length - 1 - (rest.length - 1 - slot) % 5 < rest.length := by
          omega
        rw [if_neg own, induction (by omega), older, List.getElem?_append_left within]

variable {samples : List Float}

private theorem getElem?_inSlots (full : agreementSize ≤ samples.length) {slot : Nat}
    (inRange : slot < agreementSize) :
    (inSlots samples)[slot]? = latestIn samples slot := by
  have reached : slot < samples.length := by omega
  rw [← toList_samples_given (new 0) samples full, latestIn_eq samples inRange reached,
    List.getElem?_eq_getElem (by simpa using inRange), Vector.getElem_toList,
    getElem_samples_given _ _ _ inRange, dif_pos reached]
  exact (List.getElem?_eq_getElem _).symm

def CloseIn (tolerance : Float) (samples : List Float) (slot : Nat) : Prop :=
  ∃ sample next,
    latestIn samples slot = some sample ∧ latestIn samples (slot + 1) = some next ∧
    (sample - next).abs ≤ tolerance

private theorem agree_iff_closeIn (tolerance : Float) (samples : List Float) :
    Agree tolerance samples ↔ agreementSize ≤ samples.length ∧
      ∀ slot, slot + 1 < agreementSize → CloseIn tolerance samples slot := by
  refine and_congr_right fun full => ?_
  have length := length_inSlots full
  rw [List.isChain_iff_getElem]
  constructor
  · intro chain slot inRange
    refine ⟨_, _, ?_, ?_, chain slot (by omega)⟩
    · rw [← getElem?_inSlots full (by omega), List.getElem?_eq_getElem]
    · rw [← getElem?_inSlots full inRange, List.getElem?_eq_getElem]
  · intro close slot inRange
    rw [length] at inRange
    rcases close slot inRange with ⟨sample, next, first, second, close⟩
    rw [← getElem?_inSlots full (by omega)] at first
    rw [← getElem?_inSlots full inRange] at second
    rw [(List.getElem?_eq_some_iff.mp first).2, (List.getElem?_eq_some_iff.mp second).2]
    exact close

/-! ## Arrivals -/

def lastFive (samples : List Float) : List Float :=
  samples.drop (samples.length - agreementSize)

/-- The last five samples that came before the ring wrapped. -/
def earlierRound (samples : List Float) : List Float :=
  (lastFive samples).take (agreementSize - samples.length % agreementSize)

def presentRound (samples : List Float) : List Float :=
  (lastFive samples).drop (agreementSize - samples.length % agreementSize)

def Steady (tolerance : Float) (arrivals : List Float) : Prop :=
  arrivals.IsChain fun sample next => (sample - next).abs ≤ tolerance

private theorem length_lastFive (full : agreementSize ≤ samples.length) :
    (lastFive samples).length = agreementSize := by
  rw [lastFive, List.length_drop]
  omega

private theorem inSlots_perm (samples : List Float) :
    (inSlots samples).Perm (lastFive samples) :=
  List.rotate_perm _ _

private theorem inSlots_eq (full : agreementSize ≤ samples.length) :
    inSlots samples = presentRound samples ++ earlierRound samples := by
  apply List.rotate_eq_drop_append_take
  rw [List.length_drop]
  omega

/-- Where five are a whole number of rounds, the slots stand in the order of arrival. -/
private theorem inSlots_of_whole (full : agreementSize ≤ samples.length)
    (whole : samples.length % agreementSize = 0) :
    inSlots samples = lastFive samples := by
  have length := length_lastFive full
  rw [inSlots_eq full, presentRound, earlierRound, whole, Nat.sub_zero,
    List.drop_of_length_le length.le, List.take_of_length_le length.le]
  rfl

private theorem getLast?_presentRound (full : agreementSize ≤ samples.length)
    (wrapped : samples.length % agreementSize ≠ 0) :
    (presentRound samples).getLast? = samples.getLast? := by
  have less := Nat.mod_lt samples.length (show 0 < agreementSize by decide)
  have length := length_lastFive full
  rw [presentRound, List.getLast?_drop, if_neg (by omega), lastFive, List.getLast?_drop,
    if_neg (by omega)]

private theorem head?_earlierRound (samples : List Float) :
    (earlierRound samples).head? = (lastFive samples).head? := by
  have less := Nat.mod_lt samples.length (show 0 < agreementSize by decide)
  rw [earlierRound, List.head?_take, if_neg (by omega)]

private theorem steady_inSlots_iff_of_wrapped (tolerance : Float)
    (full : agreementSize ≤ samples.length)
    (wrapped : samples.length % agreementSize ≠ 0) {newest : Float}
    (last : samples.getLast? = some newest) :
    Steady tolerance (inSlots samples) ↔
      Steady tolerance (earlierRound samples) ∧ Steady tolerance (presentRound samples) ∧
        ∀ oldest ∈ (lastFive samples).head?, (newest - oldest).abs ≤ tolerance := by
  rw [Steady, inSlots_eq full, List.isChain_append,
    getLast?_presentRound full wrapped, last, head?_earlierRound]
  simp only [Option.mem_some_iff, forall_eq']
  exact and_left_comm

/-! ## Not-a-number -/

private theorem exists_related_of_mem {Related : Float → Float → Prop} {sample : Float} :
    ∀ {chain : List Float}, chain.IsChain Related → 2 ≤ chain.length → sample ∈ chain →
      ∃ other, Related sample other ∨ Related other sample
  | first :: second :: rest, related, _, member => by
      rw [List.isChain_cons_cons] at related
      rcases List.mem_cons.mp member with rfl | member
      · exact ⟨second, .inl related.1⟩
      rcases List.mem_cons.mp member with rfl | later
      · exact ⟨first, .inr related.1⟩
      cases rest with
      | nil => cases later
      | cons third rest =>
          exact exists_related_of_mem related.2 (Nat.le_add_left _ _) member

private theorem not_agree_of_isNaN (tolerance : Float) {sample : Float}
    (member : sample ∈ lastFive samples)
    (nan : sample.isNaN = true) : ¬Agree tolerance samples := by
  rintro ⟨full, chain⟩
  have several : 2 ≤ (inSlots samples).length := by
    rw [length_inSlots full]
    decide
  rcases exists_related_of_mem chain several
    ((inSlots_perm samples).mem_iff.mpr member) with
    ⟨other, close | close⟩
  · exact Binary64.not_abs_sub_le_of_isNaN (.inl nan) tolerance close
  · exact Binary64.not_abs_sub_le_of_isNaN (.inr nan) tolerance close

/-! ## All histories -/

def judged (uses : List Use) (sample : Float) : List Float :=
  sinceRestart uses ++ [sample]

private theorem verdict_iff (tolerance : Float) (uses : List Use) (sample : Float) :
    verdict tolerance uses sample = true ↔ Agree tolerance (judged uses sample) := by
  rcases exists_used_eq_given tolerance uses with ⟨before, rfl, reached⟩
  rw [verdict, reached]
  exact consider_given_iff before (sinceRestart uses) sample

private theorem mean_used (tolerance : Float) {uses : List Use}
    (full : agreementSize ≤ (sinceRestart uses).length) :
    (used tolerance uses).mean = meanOf (sinceRestart uses) := by
  rcases exists_used_eq_given tolerance uses with ⟨before, -, reached⟩
  rw [reached]
  exact mean_given before _ full

private theorem inSlots_eq_latestIn (full : agreementSize ≤ samples.length) :
    (inSlots samples).map some = (List.range agreementSize).map (latestIn samples) := by
  apply List.ext_getElem
  · simp [length_inSlots full]
  · intro slot inRange _
    rw [List.length_map, length_inSlots full] at inRange
    rw [List.getElem_map, List.getElem_map, List.getElem_range,
      ← getElem?_inSlots full inRange]
    exact (List.getElem?_eq_getElem _).symm

private theorem sinceRestart_append_restart (before since : List Use) :
    sinceRestart (before ++ .restart :: since) = sinceRestart (.restart :: since) := by
  induction since using List.reverseRecOn with
  | nil =>
      rw [sinceRestart_restart, ← List.nil_append [Use.restart], sinceRestart_restart]
  | append_singleton since newest induction =>
      rw [← List.cons_append, ← List.append_assoc]
      cases newest with
      | consider sample => rw [sinceRestart_consider, sinceRestart_consider, induction]
      | restart => rw [sinceRestart_restart, sinceRestart_restart]

/-- Verdicts and means depend on the samples in the slots, which are the last five since
the last restart. -/
structure JudgesSlots (tolerance : Float) : Prop where
  accepts_iff : ∀ uses sample, verdict tolerance uses sample = true ↔
    agreementSize ≤ (judged uses sample).length ∧
      ∀ slot, slot + 1 < agreementSize → CloseIn tolerance (judged uses sample) slot
  wholeRounds : ∀ uses sample, (judged uses sample).length % agreementSize = 0 →
    (verdict tolerance uses sample = true ↔
      Steady tolerance (lastFive (judged uses sample)))
  wrappedRounds : ∀ uses sample, agreementSize ≤ (judged uses sample).length →
    (judged uses sample).length % agreementSize ≠ 0 →
    (verdict tolerance uses sample = true ↔
      Steady tolerance (earlierRound (judged uses sample)) ∧
      Steady tolerance (presentRound (judged uses sample)) ∧
        ∀ oldest ∈ (lastFive (judged uses sample)).head?,
          (sample - oldest).abs ≤ tolerance)
  refusesNaN : ∀ uses sample,
    (∃ other ∈ lastFive (judged uses sample), other.isNaN = true) →
    verdict tolerance uses sample = false
  mean : ∀ uses, agreementSize ≤ (sinceRestart uses).length → ∃ slots : List Float,
    slots.map some = (List.range agreementSize).map (latestIn (sinceRestart uses)) ∧
      slots.Perm (lastFive (sinceRestart uses)) ∧
      (used tolerance uses).mean = slots.foldl (· + ·) (-0.0) / 5.0
  forgetsVerdicts : ∀ before other since sample,
    verdict tolerance (before ++ .restart :: since) sample =
      verdict tolerance (other ++ .restart :: since) sample
  forgetsMeans : ∀ before other since,
    agreementSize ≤ (sinceRestart (before ++ .restart :: since)).length →
    (used tolerance (before ++ .restart :: since)).mean =
      (used tolerance (other ++ .restart :: since)).mean

theorem judgesSlots (tolerance : Float) : JudgesSlots tolerance where
  accepts_iff uses sample :=
    (verdict_iff tolerance uses sample).trans (agree_iff_closeIn _ _)
  wholeRounds uses sample whole := by
    have full : agreementSize ≤ (judged uses sample).length := by
      have some : 0 < (judged uses sample).length := by simp [judged]
      exact Nat.le_of_dvd some (Nat.dvd_of_mod_eq_zero whole)
    rw [verdict_iff, Agree, and_iff_right full, inSlots_of_whole full whole]
    rfl
  wrappedRounds uses sample full wrapped := by
    have newest : (judged uses sample).getLast? = some sample := List.getLast?_concat
    rw [verdict_iff, Agree, and_iff_right full]
    exact steady_inSlots_iff_of_wrapped tolerance full wrapped newest
  refusesNaN uses sample unordered := by
    rcases unordered with ⟨other, member, nan⟩
    rw [Bool.eq_false_iff, ne_eq, verdict_iff]
    exact not_agree_of_isNaN tolerance member nan
  mean uses full :=
    ⟨_, inSlots_eq_latestIn full, inSlots_perm _, mean_used tolerance full⟩
  forgetsVerdicts before other since sample := by
    rw [Bool.eq_iff_iff, verdict_iff, verdict_iff, judged, judged,
      sinceRestart_append_restart, sinceRestart_append_restart other]
  forgetsMeans before other since full := by
    rw [mean_used tolerance full]
    rw [sinceRestart_append_restart before, ← sinceRestart_append_restart other] at full ⊢
    exact (mean_used tolerance full).symm

end ClockDiscipline.Agreement
