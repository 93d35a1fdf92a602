import ClockDiscipline.Proofs.Calendar
import ClockDiscipline.Proofs.Checked.Fields
import ClockDiscipline.Proofs.Fields.Digits

/-!
The instants that digits tell. The calendar and the clock of UTC show the written date and
time at the instant that is told, every second of the century is told by what they show
then, and the order of instants is the order of their digits.
-/

namespace ClockDiscipline.Nmea

/-! ## What digits write -/

def writtenAt (text : String) (place : Nat) : Nat :=
  (((leading text).getD place 0).toNat - 0x30) * 10 +
    (((leading text).getD (place + 1) 0).toNat - 0x30)

def writtenDate (text : String) : Date :=
  ⟨2000 + writtenAt text 4, writtenAt text 2, writtenAt text 0⟩

def writtenTime (text : String) : TimeOfDay :=
  ⟨writtenAt text 0, writtenAt text 2, writtenAt text 4⟩

def writtenNumber (date time : String) : Nat :=
  ((((writtenAt date 4 * 100 + writtenAt date 2) * 100 + writtenAt date 0) * 100 +
    writtenAt time 0) * 100 + writtenAt time 2) * 100 + writtenAt time 4

section Digits

variable {text : String} (digits : BeginsWithDigits text)

include digits

private theorem exists_bytes : ∃ a b c d e f : UInt8, leading text = [a, b, c, d, e, f] ∧
    ∀ byte ∈ [a, b, c, d, e, f], 0x30 ≤ byte.toNat ∧ byte.toNat ≤ 0x39 := by
  rcases digits with ⟨six, digits⟩
  match bytes : leading text, six, digits with
  | [a, b, c, d, e, f], _, digits => exact ⟨a, b, c, d, e, f, rfl, digits⟩

private theorem exists_characters : ∃ a b c d e f rest,
    text.toList = a :: b :: c :: d :: e :: f :: rest ∧
      ∀ character ∈ [a, b, c, d, e, f], character.isDigit = true := by
  rcases (beginsWithDigits_iff text).mp digits with ⟨six, digits⟩
  match characters : text.toList, six, digits with
  | a :: b :: c :: d :: e :: f :: rest, _, digits =>
      exact ⟨a, b, c, d, e, f, rest, rfl, digits⟩

private theorem writtenAt_lt :
    writtenAt text 0 < 100 ∧ writtenAt text 2 < 100 ∧ writtenAt text 4 < 100 := by
  rcases exists_bytes digits with ⟨a, b, c, d, e, f, bytes, bounds⟩
  simp only [List.forall_mem_cons, List.getD_cons_zero, List.getD_cons_succ, writtenAt,
    bytes] at bounds ⊢
  omega

private theorem threePairs_of_digits :
    threePairs text = some (writtenAt text 0, writtenAt text 2, writtenAt text 4) := by
  rcases exists_characters digits with ⟨a, b, c, d, e, f, rest, characters, isDigit⟩
  have bytes : leading text = [a, b, c, d, e, f].map fun character =>
      UInt8.ofNat character.toNat := by
    rw [leading_eq_map] <;> rw [characters]
    · rfl
    · exact fun character member => toNat_lt_of_isDigit (isDigit character member)
  have pair {tens units : Char} (tensIn : tens ∈ [a, b, c, d, e, f])
      (unitsIn : units ∈ [a, b, c, d, e, f]) : pairValue tens units =
        some (((UInt8.ofNat tens.toNat).toNat - 0x30) * 10 +
          ((UInt8.ofNat units.toNat).toNat - 0x30)) := by
    have code {character : Char} (inside : character ∈ [a, b, c, d, e, f]) :
        (UInt8.ofNat character.toNat).toNat = character.toNat :=
      UInt8.toNat_ofNat_of_lt'
        (Nat.lt_trans (toNat_lt_of_isDigit (isDigit character inside)) (by decide))
    rw [pairValue, if_pos (isDigit units unitsIn), if_pos (isDigit tens tensIn),
      code tensIn, code unitsIn]
    rfl
  refine threePairs_eq_some_iff.mpr ⟨a, b, c, d, e, f, rest, characters, ?_, ?_, ?_⟩ <;>
    rw [writtenAt, bytes]
  · exact pair (by simp) (by simp)
  · exact pair (by simp) (by simp)
  · exact pair (by simp) (by simp)

private theorem leading_inj {other : String} (otherDigits : BeginsWithDigits other)
    (first : writtenAt text 0 = writtenAt other 0)
    (second : writtenAt text 2 = writtenAt other 2)
    (third : writtenAt text 4 = writtenAt other 4) : leading text = leading other := by
  rcases exists_bytes digits with ⟨a, b, c, d, e, f, bytes, bounds⟩
  rcases exists_bytes otherDigits with ⟨a', b', c', d', e', f', otherBytes, otherBounds⟩
  simp only [writtenAt, bytes, otherBytes, List.getD_cons_zero, List.getD_cons_succ]
    at first second third
  simp only [List.forall_mem_cons] at bounds otherBounds
  simp only [bytes, otherBytes, List.cons.injEq, ← UInt8.toNat_inj, and_true]
  omega

end Digits

private theorem instant?_of_digits {date time : String}
    (dateDigits : BeginsWithDigits date) (timeDigits : BeginsWithDigits time) :
    instant? date time = instantOf (writtenDate date) (writtenTime time) := by
  rw [instant?, threePairs_of_digits dateDigits, threePairs_of_digits timeDigits]
  rfl

private theorem before_iff_writtenNumber_lt {date time lateDate lateTime : String}
    (dateDigits : BeginsWithDigits date) (lateDigits : BeginsWithDigits lateDate)
    (timeExists : (writtenTime time).Exists)
    (lateExists : (writtenTime lateTime).Exists) :
    (writtenDate date).Before (writtenDate lateDate) ∨
        writtenDate date = writtenDate lateDate ∧
          (writtenTime time).seconds < (writtenTime lateTime).seconds ↔
      writtenNumber date time < writtenNumber lateDate lateTime := by
  have bounds := writtenAt_lt dateDigits
  have lateBounds := writtenAt_lt lateDigits
  simp only [Date.Before, writtenDate, writtenTime, TimeOfDay.Exists, TimeOfDay.seconds,
    writtenNumber, Date.mk.injEq] at *
  omega

/-! ## What calendar and clock show, in digits -/

def pair (number : Nat) : List Char :=
  [Nat.digitChar (number / 10), Nat.digitChar (number % 10)]

/-- A date as `DDMMYY`. -/
def dateText (date : Date) : String :=
  String.ofList (pair date.day ++ pair date.month ++ pair (date.year % 100))

/-- A time as `HHMMSS`. -/
def timeText (time : TimeOfDay) : String :=
  String.ofList (pair time.hour ++ pair time.minute ++ pair time.second)

private theorem pairValue_pair {number : Nat} (small : number < 100) :
    pairValue (Nat.digitChar (number / 10)) (Nat.digitChar (number % 10)) =
      some number := by
  have each : ∀ number : Fin 100,
      pairValue (Nat.digitChar (number / 10)) (Nat.digitChar (number % 10)) =
        some number.val := by
    decide +kernel
  exact each ⟨number, small⟩

private theorem threePairs_pairs {first second third : Nat} (firstSmall : first < 100)
    (secondSmall : second < 100) (thirdSmall : third < 100) (behind : String) :
    threePairs (String.ofList (pair first ++ pair second ++ pair third) ++ behind) =
      some (first, second, third) := by
  refine threePairs_eq_some_iff.mpr ⟨_, _, _, _, _, _, behind.toList, ?_,
    pairValue_pair firstSmall, pairValue_pair secondSmall, pairValue_pair thirdSmall⟩
  rw [String.toList_append, String.toList_ofList]
  rfl

/-- The seconds of the years from 2000 to 2099. -/
def InCentury (seconds : Nat) : Prop := 946684800 ≤ seconds ∧ seconds < 4102444800

private theorem year_of_inCentury {seconds : Nat} (within : InCentury seconds) :
    2000 ≤ (shownAt seconds).1.year ∧ (shownAt seconds).1.year < 2100 := by
  have ⟨valid, late⟩ := Date.exists_after (seconds / 86400)
  have number := Date.dayNumber_after (seconds / 86400)
  have start : Date.dayNumber ⟨2000, 1, 1⟩ = 10957 := by decide
  have stop : Date.dayNumber ⟨2099, 12, 31⟩ = 47481 := by decide
  unfold InCentury at within
  constructor
  · by_contra earlier
    have before : (Date.after (seconds / 86400)).Before ⟨2000, 1, 1⟩ :=
      .inl (Nat.lt_of_not_le earlier)
    have less := Date.dayNumber_lt_of_before valid (by decide) (by omega) before
    omega
  · by_contra later
    have before : Date.Before ⟨2099, 12, 31⟩ (Date.after (seconds / 86400)) :=
      .inl (Nat.le_of_not_lt later)
    have less := Date.dayNumber_lt_of_before (by decide) valid (by decide) before
    omega

private theorem instant?_written {seconds : Nat} (within : InCentury seconds)
    (behindDate behindTime : String) :
    instant? (dateText (shownAt seconds).1 ++ behindDate)
      (timeText (shownAt seconds).2 ++ behindTime) = some (seconds : Int) := by
  have ⟨early, late⟩ := year_of_inCentury within
  have known : instantOf (shownAt seconds).1 (shownAt seconds).2 = some (seconds : Int) :=
    (instantOf_iff_shownAt (Nat.le_trans (by decide) early) _).mpr ⟨seconds, rfl, rfl⟩
  have ⟨⟨_, month, _, day⟩, ⟨hour, minute, second⟩, _⟩ := instantOf_eq_some_iff.mp known
  have days := Date.daysInMonth_le (shownAt seconds).1.year (shownAt seconds).1.month
  have century : 2000 + (shownAt seconds).1.year % 100 = (shownAt seconds).1.year := by
    omega
  have ofDate := threePairs_pairs (show (shownAt seconds).1.day < 100 by omega)
    (show (shownAt seconds).1.month < 100 by omega)
    (show (shownAt seconds).1.year % 100 < 100 from Nat.mod_lt _ (by decide)) behindDate
  have ofTime := threePairs_pairs (show (shownAt seconds).2.hour < 100 by omega)
    (show (shownAt seconds).2.minute < 100 by omega)
    (show (shownAt seconds).2.second < 100 by omega) behindTime
  rw [instant?, dateText, timeText, ofDate, ofTime]
  simp only [Option.bind_eq_bind, Option.bind_some, century]
  exact known

/-! ## Conversions -/

/-- A conversion of dates `DDMMYY` and times `HHMMSS`, with whatever stands behind the
digits, to the seconds of UTC. -/
structure ConvertsDigits (convert : String → String → Option Int) : Prop where
  known : ∀ {date time}, BeginsWithDigits date → BeginsWithDigits time →
    ((convert date time).isSome = true ↔
      (writtenDate date).Exists ∧ (writtenTime time).Exists)
  shown : ∀ {date time}, BeginsWithDigits date → BeginsWithDigits time →
    ∀ utc, convert date time = some utc ↔
      ∃ seconds : Nat,
        utc = seconds ∧ shownAt seconds = (writtenDate date, writtenTime time)
  written : ∀ {seconds}, InCentury seconds → ∀ behindDate behindTime,
    convert (dateText (shownAt seconds).1 ++ behindDate)
      (timeText (shownAt seconds).2 ++ behindTime) = some (seconds : Int)
  ordered : ∀ {date time lateDate lateTime utc lateUtc}, BeginsWithDigits date →
    BeginsWithDigits time → BeginsWithDigits lateDate → BeginsWithDigits lateTime →
    convert date time = some utc → convert lateDate lateTime = some lateUtc →
      (utc < lateUtc ↔ writtenNumber date time < writtenNumber lateDate lateTime)
  injective : ∀ {date time otherDate otherTime utc}, BeginsWithDigits date →
    BeginsWithDigits time → BeginsWithDigits otherDate → BeginsWithDigits otherTime →
    convert date time = some utc → convert otherDate otherTime = some utc →
      leading date = leading otherDate ∧ leading time = leading otherTime

private theorem instant?_lt_iff {date time lateDate lateTime : String} {utc lateUtc : Int}
    (dateDigits : BeginsWithDigits date) (timeDigits : BeginsWithDigits time)
    (lateDateDigits : BeginsWithDigits lateDate)
    (lateTimeDigits : BeginsWithDigits lateTime)
    (told : instant? date time = some utc)
    (lateTold : instant? lateDate lateTime = some lateUtc) :
    utc < lateUtc ↔ writtenNumber date time < writtenNumber lateDate lateTime := by
  rw [instant?_of_digits dateDigits timeDigits] at told
  rw [instant?_of_digits lateDateDigits lateTimeDigits] at lateTold
  have since (text : String) : 1 ≤ (writtenDate text).year :=
    Nat.le_trans (by decide) (Nat.le_add_right 2000 _)
  rw [instantOf_lt_iff (since date) (since lateDate) told lateTold]
  exact before_iff_writtenNumber_lt dateDigits lateDateDigits
    (instantOf_eq_some_iff.mp told).2.1 (instantOf_eq_some_iff.mp lateTold).2.1

theorem convertsDigits_instant? : ConvertsDigits instant? where
  known dateDigits timeDigits := by
    rw [instant?_of_digits dateDigits timeDigits, instantOf]
    split
    case isTrue valid => exact iff_of_true rfl valid
    case isFalse invalid => exact iff_of_false Bool.false_ne_true invalid
  shown dateDigits timeDigits utc := by
    rw [instant?_of_digits dateDigits timeDigits]
    exact instantOf_iff_shownAt (Nat.le_trans (by decide) (Nat.le_add_right 2000 _)) utc
  written := instant?_written
  ordered := instant?_lt_iff
  injective := by
    intro date time otherDate otherTime utc dateDigits timeDigits otherDateDigits
      otherTimeDigits
      told otherTold
    -- Neither number is less than the other one, as neither instant is.
    have less :=
      instant?_lt_iff dateDigits timeDigits otherDateDigits otherTimeDigits told otherTold
    have more :=
      instant?_lt_iff otherDateDigits otherTimeDigits dateDigits timeDigits otherTold told
    have dateBounds := writtenAt_lt dateDigits
    have timeBounds := writtenAt_lt timeDigits
    have otherDateBounds := writtenAt_lt otherDateDigits
    have otherTimeBounds := writtenAt_lt otherTimeDigits
    simp only [lt_self_iff_false, false_iff, writtenNumber] at less more
    constructor
    · apply leading_inj dateDigits otherDateDigits <;> omega
    · apply leading_inj timeDigits otherTimeDigits <;> omega

theorem convertsDigits_of_leapDay :
    BeginsWithDigits "290296" ∧ BeginsWithDigits "290299" ∧ BeginsWithDigits "235959.75" ∧
      (instant? "290296" "235959.75").isSome = true ∧
      (instant? "290299" "235959.75").isSome = false := by
  have leapDay : BeginsWithDigits "290296" := by decide +kernel
  have noDay : BeginsWithDigits "290299" := by decide +kernel
  have time : BeginsWithDigits "235959.75" := by decide +kernel
  refine ⟨leapDay, noDay, time, ?_, ?_⟩
  · exact (convertsDigits_instant?.known leapDay time).mpr (by decide +kernel)
  · rw [Bool.eq_false_iff, ne_eq, convertsDigits_instant?.known noDay time]
    decide +kernel

end ClockDiscipline.Nmea
