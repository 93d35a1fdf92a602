import ClockDiscipline.Nmea.Fields
import Mathlib.Data.List.Basic

/-!
The digits of dates and times. An instant is told only by texts that begin with six
digits, except that a plus sign may stand for the first digit of a pair, where it counts
as a zero.
-/

namespace ClockDiscipline.Nmea

/-! ## The first bytes of a text -/

def leading (text : String) : List UInt8 := text.toByteArray.data.toList.take 6

def IsDigitByte (byte : UInt8) : Prop := 0x30 ≤ byte ∧ byte ≤ 0x39

instance (byte : UInt8) : Decidable (IsDigitByte byte) :=
  inferInstanceAs (Decidable (_ ∧ _))

def BeginsWithDigits (text : String) : Prop :=
  (leading text).length = 6 ∧ ∀ byte ∈ leading text, IsDigitByte byte

instance (text : String) : Decidable (BeginsWithDigits text) :=
  inferInstanceAs (Decidable (_ ∧ _))

theorem toList_toByteArray (text : String) :
    text.toByteArray.data.toList = text.toList.flatMap String.utf8EncodeChar := by
  have bytes : (String.ofList text.toList).toByteArray = text.toList.utf8Encode :=
    String.toByteArray_ofList
  rw [String.ofList_toList, List.utf8Encode] at bytes
  rw [bytes, List.data_toByteArray]

private theorem utf8EncodeChar_of_ascii {character : Char}
    (ascii : character.toNat < 0x80) :
    String.utf8EncodeChar character = [UInt8.ofNat character.toNat] := by
  rw [String.utf8EncodeChar]
  exact if_pos (Nat.le_of_lt_succ ascii)

private theorem exists_high_of_not_ascii {character : Char}
    (wide : ¬character.toNat < 0x80) :
    ∃ first others, String.utf8EncodeChar character = first :: others ∧ 0x80 ≤ first := by
  have high {code : Nat} (above : 0x80 ≤ code) (below : code < 0x100) :
      0x80 ≤ UInt8.ofNat code := by
    rw [UInt8.le_iff_toNat_le, UInt8.toNat_ofNat_of_lt' below]
    exact above
  have above : ¬character.val.toNat ≤ 127 := fun low => wide (Nat.lt_succ_of_le low)
  rw [String.utf8EncodeChar, if_neg above]
  split
  · exact ⟨_, _, rfl, high (by omega) (by omega)⟩
  · split
    · exact ⟨_, _, rfl, high (by omega) (by omega)⟩
    · exact ⟨_, _, rfl, high (by omega) (by omega)⟩

private theorem take_flatMap_utf8 (size : Nat) : ∀ characters : List Char,
    (∀ character ∈ characters.take size, character.toNat < 0x80) →
      (characters.flatMap String.utf8EncodeChar).take size =
        (characters.take size).map fun character => UInt8.ofNat character.toNat := by
  induction size with
  | zero => intro characters _; rfl
  | succ size induction =>
      intro characters ascii
      cases characters with
      | nil => rfl
      | cons character rest =>
          rw [List.take_succ_cons, List.forall_mem_cons] at ascii
          rw [List.flatMap_cons, utf8EncodeChar_of_ascii ascii.1, List.take_succ_cons,
            List.map_cons, List.singleton_append, List.take_succ_cons,
            induction rest ascii.2]

private theorem ascii_of_take_flatMap (size : Nat) : ∀ characters : List Char,
    (∀ byte ∈ (characters.flatMap String.utf8EncodeChar).take size, byte < 0x80) →
      ∀ character ∈ characters.take size, character.toNat < 0x80 := by
  induction size with
  | zero => intro characters _; simp
  | succ size induction =>
      intro characters low
      cases characters with
      | nil => simp
      | cons character rest =>
          rw [List.flatMap_cons] at low
          by_cases ascii : character.toNat < 0x80
          · rw [utf8EncodeChar_of_ascii ascii, List.singleton_append, List.take_succ_cons,
              List.forall_mem_cons] at low
            rw [List.take_succ_cons, List.forall_mem_cons]
            exact ⟨ascii, induction rest low.2⟩
          · rcases exists_high_of_not_ascii ascii with ⟨first, others, bytes, high⟩
            rw [bytes, List.cons_append, List.take_succ_cons, List.forall_mem_cons] at low
            exact absurd high (UInt8.not_le.mpr low.1)

theorem leading_eq_map {text : String}
    (ascii : ∀ character ∈ text.toList.take 6, character.toNat < 0x80) :
    leading text = (text.toList.take 6).map fun character =>
      UInt8.ofNat character.toNat := by
  rw [leading, toList_toByteArray, take_flatMap_utf8 6 _ ascii]

private theorem isDigitByte_ofNat {character : Char} (ascii : character.toNat < 0x80) :
    IsDigitByte (UInt8.ofNat character.toNat) ↔ character.isDigit = true := by
  have code : (UInt8.ofNat character.toNat).toNat = character.toNat :=
    UInt8.toNat_ofNat_of_lt' (Nat.lt_trans ascii (by decide))
  rw [IsDigitByte, Char.isDigit_iff_toNat, UInt8.le_iff_toNat_le,
    UInt8.le_iff_toNat_le, code]
  rfl

theorem toNat_lt_of_isDigit {character : Char} (digit : character.isDigit = true) :
    character.toNat < 0x80 :=
  Nat.lt_of_le_of_lt (Char.isDigit_iff_toNat.mp digit).2 (by decide)

theorem beginsWithDigits_iff (text : String) : BeginsWithDigits text ↔
    (text.toList.take 6).length = 6 ∧
      ∀ character ∈ text.toList.take 6, character.isDigit = true := by
  constructor
  · rintro ⟨six, digits⟩
    have ascii : ∀ character ∈ text.toList.take 6, character.toNat < 0x80 := by
      apply ascii_of_take_flatMap
      rw [← toList_toByteArray]
      intro byte member
      exact UInt8.lt_of_le_of_lt (digits byte member).2 (by decide)
    rw [leading_eq_map ascii, List.length_map] at six
    rw [leading_eq_map ascii] at digits
    refine ⟨six, fun character member => ?_⟩
    exact (isDigitByte_ofNat (ascii character member)).mp
      (digits _ (List.mem_map_of_mem member))
  · rintro ⟨six, digits⟩
    have ascii : ∀ character ∈ text.toList.take 6, character.toNat < 0x80 :=
      fun character member => toNat_lt_of_isDigit (digits character member)
    rw [BeginsWithDigits, leading_eq_map ascii, List.length_map]
    refine ⟨six, fun byte member => ?_⟩
    rcases List.mem_map.mp member with ⟨character, inside, rfl⟩
    exact (isDigitByte_ofNat (ascii character inside)).mpr (digits character inside)

/-! ## Pairs -/

/-- The character that a pair is read with: a zero where a plus sign stands. -/
def withoutPlus (character : Char) : Char := if character = '+' then '0' else character

private theorem withoutPlus_of_isDigit {character : Char}
    (digit : character.isDigit = true) : withoutPlus character = character := by
  apply if_neg
  rintro rfl
  cases digit

/-- A pair is two digits, of which the first may be a plus sign in place of a zero. -/
theorem pairValue_eq_some {tens units : Char} {value : Nat}
    (taken : pairValue tens units = some value) :
    units.isDigit = true ∧ (tens.isDigit = true ∨ tens = '+') ∧
      pairValue (withoutPlus tens) (withoutPlus units) = some value := by
  unfold pairValue at taken
  split at taken
  case isTrue unitsDigit =>
    have unitsPlain : withoutPlus units = units := withoutPlus_of_isDigit unitsDigit
    split at taken
    case isTrue tensDigit =>
      have tensPlain : withoutPlus tens = tens := withoutPlus_of_isDigit tensDigit
      refine ⟨unitsDigit, .inl tensDigit, ?_⟩
      rw [unitsPlain, tensPlain, pairValue, if_pos unitsDigit, if_pos tensDigit, taken]
    case isFalse =>
      split at taken
      case isTrue plus =>
        refine ⟨unitsDigit, .inr plus, ?_⟩
        rw [unitsPlain, plus, withoutPlus, if_pos rfl, pairValue, if_pos unitsDigit,
          if_pos (by decide), Nat.sub_self, Nat.zero_mul, Nat.zero_add]
        exact taken
      case isFalse => cases taken
  case isFalse => cases taken

def withZeros (text : String) : String := text.map withoutPlus

theorem threePairs_eq_some_iff {text : String} {first second third : Nat} :
    threePairs text = some (first, second, third) ↔ ∃ a b c d e f rest,
      text.toList = a :: b :: c :: d :: e :: f :: rest ∧ pairValue a b = some first ∧
        pairValue c d = some second ∧ pairValue e f = some third := by
  constructor
  · intro taken
    unfold threePairs at taken
    split at taken
    case h_1 a b c d e f rest characters =>
      simp only [Option.bind_eq_bind, Option.bind_eq_some_iff, Option.pure_def,
        Option.some.injEq, Prod.mk.injEq] at taken
      rcases taken with ⟨_, firstPair, _, secondPair, _, thirdPair, rfl, rfl, rfl⟩
      exact ⟨a, b, c, d, e, f, rest, characters, firstPair, secondPair, thirdPair⟩
    case h_2 => cases taken
  · rintro ⟨a, b, c, d, e, f, rest, characters, firstPair, secondPair, thirdPair⟩
    simp [threePairs, characters, firstPair, secondPair, thirdPair]

def plusSign : UInt8 := 0x2b

/-- The first six bytes of a text are three pairs, as far as the station reads them. -/
structure BeginsWithPairs (text : String) : Prop where
  length : (leading text).length = 6
  bytes : ∀ place byte, (leading text)[place]? = some byte →
    IsDigitByte byte ∨ byte = plusSign ∧ place % 2 = 0

section Read

variable {text : String} {first second third : Nat}

private theorem readable_of_threePairs
    (taken : threePairs text = some (first, second, third)) :
    (text.toList.take 6).length = 6 ∧
      ∀ character ∈ text.toList.take 6, character.isDigit = true ∨ character = '+' := by
  rcases threePairs_eq_some_iff.mp taken with
    ⟨a, b, c, d, e, f, rest, characters, firstPair, secondPair, thirdPair⟩
  have ⟨bDigit, aTens, _⟩ := pairValue_eq_some firstPair
  have ⟨dDigit, cTens, _⟩ := pairValue_eq_some secondPair
  have ⟨fDigit, eTens, _⟩ := pairValue_eq_some thirdPair
  rw [characters]
  refine ⟨rfl, ?_⟩
  simp only [List.take_succ_cons, List.take_zero, List.forall_mem_cons]
  exact ⟨aTens, .inl bDigit, cTens, .inl dDigit, eTens, .inl fDigit,
    fun _ member => absurd member List.not_mem_nil⟩

private theorem ascii_of_threePairs
    (taken : threePairs text = some (first, second, third)) :
    ∀ character ∈ text.toList.take 6, character.toNat < 0x80 := by
  intro character member
  rcases (readable_of_threePairs taken).2 character member with digit | rfl
  · exact toNat_lt_of_isDigit digit
  · decide

private theorem beginsWithPairs_of_threePairs
    (taken : threePairs text = some (first, second, third)) :
    BeginsWithPairs text := by
  have bytes := leading_eq_map (ascii_of_threePairs taken)
  rcases threePairs_eq_some_iff.mp taken with
    ⟨a, b, c, d, e, f, rest, characters, firstPair, secondPair, thirdPair⟩
  have digit {character : Char} (isDigit : character.isDigit = true) :
      IsDigitByte (UInt8.ofNat character.toNat) :=
    (isDigitByte_ofNat (toNat_lt_of_isDigit isDigit)).mpr isDigit
  have tens {character : Char} {place : Nat} (even : place % 2 = 0)
      (read : character.isDigit = true ∨ character = '+') :
      IsDigitByte (UInt8.ofNat character.toNat) ∨
        UInt8.ofNat character.toNat = plusSign ∧ place % 2 = 0 := by
    rcases read with isDigit | rfl
    · exact .inl (digit isDigit)
    · exact .inr ⟨rfl, even⟩
  rw [characters] at bytes
  refine ⟨by rw [bytes]; rfl, ?_⟩
  rw [bytes]
  intro place byte present
  rcases place with _ | _ | _ | _ | _ | _ | place <;> cases present
  · exact tens rfl (pairValue_eq_some firstPair).2.1
  · exact .inl (digit (pairValue_eq_some firstPair).1)
  · exact tens rfl (pairValue_eq_some secondPair).2.1
  · exact .inl (digit (pairValue_eq_some secondPair).1)
  · exact tens rfl (pairValue_eq_some thirdPair).2.1
  · exact .inl (digit (pairValue_eq_some thirdPair).1)

private theorem BeginsWithPairs.digits_iff (pairs : BeginsWithPairs text) :
    BeginsWithDigits text ↔ plusSign ∉ leading text := by
  constructor
  · intro digits plus
    have low : plusSign < 0x30 := by decide
    exact UInt8.not_le.mpr low (digits.2 plusSign plus).1
  · intro plain
    refine ⟨pairs.length, fun byte member => ?_⟩
    rcases List.getElem?_of_mem member with ⟨place, present⟩
    rcases pairs.bytes place byte present with digit | ⟨plus, -⟩
    · exact digit
    · exact absurd (plus ▸ member) plain

private theorem threePairs_withZeros
    (taken : threePairs text = some (first, second, third)) :
    threePairs (withZeros text) = some (first, second, third) := by
  rcases threePairs_eq_some_iff.mp taken with
    ⟨a, b, c, d, e, f, rest, characters, firstPair, secondPair, thirdPair⟩
  refine threePairs_eq_some_iff.mpr ⟨_, _, _, _, _, _, rest.map withoutPlus, ?_,
    (pairValue_eq_some firstPair).2.2, (pairValue_eq_some secondPair).2.2,
    (pairValue_eq_some thirdPair).2.2⟩
  rw [withZeros, String.toList_map, characters]
  rfl

private theorem beginsWithDigits_withZeros
    (taken : threePairs text = some (first, second, third)) :
    BeginsWithDigits (withZeros text) := by
  have readable := readable_of_threePairs (threePairs_withZeros taken)
  refine (beginsWithDigits_iff _).mpr ⟨readable.1, fun character member => ?_⟩
  refine (readable.2 character member).resolve_right ?_
  rintro rfl
  rw [withZeros, String.toList_map] at member
  rcases List.mem_map.mp (List.mem_of_mem_take member) with ⟨other, -, plain⟩
  unfold withoutPlus at plain
  split at plain
  · cases plain
  · contradiction

end Read

/-- A date and a time that tell an instant are pairs of digits, unless a plus sign stands
among their first six bytes. It can only stand first in a pair, and the instant is the one
that a zero tells in its place. -/
theorem digits_iff_of_instant? {date time : String} {utc : Int}
    (told : instant? date time = some utc) :
    BeginsWithPairs date ∧ BeginsWithPairs time ∧
      (BeginsWithDigits date ∧ BeginsWithDigits time ↔
        plusSign ∉ leading date ∧ plusSign ∉ leading time) ∧
      BeginsWithDigits (withZeros date) ∧ BeginsWithDigits (withZeros time) ∧
      instant? (withZeros date) (withZeros time) = some utc := by
  simp only [instant?, Option.bind_eq_bind, Option.bind_eq_some_iff] at told
  rcases told with ⟨⟨day, month, year⟩, ofDate, ⟨hour, minute, second⟩, ofTime, told⟩
  have datePairs := beginsWithPairs_of_threePairs ofDate
  have timePairs := beginsWithPairs_of_threePairs ofTime
  refine ⟨datePairs, timePairs, and_congr datePairs.digits_iff timePairs.digits_iff,
    beginsWithDigits_withZeros ofDate, beginsWithDigits_withZeros ofTime, ?_⟩
  rw [instant?, threePairs_withZeros ofDate, threePairs_withZeros ofTime]
  exact told

theorem digits_iff_of_fractions :
    instant? "180510" "134724.000" = some 1274190444 ∧
      BeginsWithDigits "180510" ∧ BeginsWithDigits "134724.000" := by
  have told : instant? "180510" "134724.000" = some 1274190444 := by decide +kernel
  exact ⟨told, (digits_iff_of_instant? told).2.2.1.mpr (by decide +kernel)⟩

/-- A plus sign in front of the day tells an instant that could be set. -/
theorem not_beginsWithDigits_of_plusSign :
    instant? "+50510" "134724" = some 1273067244 ∧ ¬BeginsWithDigits "+50510" := by
  decide +kernel

end ClockDiscipline.Nmea
