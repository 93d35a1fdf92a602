import ClockDiscipline.Proofs.Toml.Texts
import ClockDiscipline.Toml.Document
import Mathlib.Data.List.Basic
import Mathlib.Data.List.TakeWhile

/-!
Written values are read back: a text in quotes, or a number in decimal digits. A word of
digits is neither a time nor a float.
-/

namespace ClockDiscipline.Toml

variable {word rest : List Char} {number : Nat}

/-! ## Words of digits -/

private theorem head_toDigits (number : Nat) :
    Nat.toDigits 10 number = '0' :: rest → number = 0 := by
  induction number using Nat.strongRecOn generalizing rest with
  | ind number induction =>
      intro zero
      rw [Nat.toDigits_eq_if (by decide)] at zero
      split at zero
      case isTrue =>
        exact Nat.digitChar_eq_zero.mp (List.cons.inj zero).1
      case isFalse large =>
        rcases List.append_eq_cons_iff.mp zero with ⟨none, -⟩ | ⟨others, digits, -⟩
        · exact absurd none Nat.toDigits_ne_nil
        · have := induction (number / 10) (by omega) digits
          omega

private theorem isDigit_toDigits (number : Nat) :
    ∀ digit ∈ Nat.toDigits 10 number, digit.isDigit = true :=
  fun _ member => Nat.isDigit_of_mem_toDigits (by decide) (by decide) member

private theorem hexValue?_of_isDigit {character : Char}
    (digit : character.isDigit = true) :
    hexValue? character = some (character.toNat - '0'.toNat) := by
  rw [Char.isDigit_iff_toNat] at digit
  exact if_pos digit

section Digits

variable (digits : ∀ character ∈ word, character.isDigit = true)

include digits

private theorem notMem_of_digits (character : Char) (other : character.isDigit = false) :
    character ∉ word := by
  intro member
  rw [digits character member] at other
  cases other

private theorem numeral_eq_ofDigitChars :
    numeral 10 word = Nat.ofDigitChars 10 word 0 := by
  rw [numeral, Nat.ofDigitChars_eq_foldl]
  refine List.foldl_ext _ _ _ fun value digit member => ?_
  rw [hexValue?_of_isDigit (digits digit member), Nat.mul_comm]
  rfl

private theorem digits?_of_digits (nonempty : word ≠ []) :
    digits? Char.isDigit word = some word := by
  induction word with
  | nil => exact absurd rfl nonempty
  | cons first word induction =>
      rw [List.forall_mem_cons] at digits
      cases word with
      | nil => rw [digits?, if_pos digits.1]
      | cons second word =>
          have further := induction digits.2 (List.cons_ne_nil _ _)
          rw [digits?, if_pos digits.1, further]
          · rfl
          · exact List.cons_ne_nil _ _
          · rintro rest ⟨⟩
            exact notMem_of_digits digits.2 '_' (by decide) List.mem_cons_self

private theorem isDate_of_digits : isDate word = false := by
  unfold isDate
  split
  · exact absurd (digits '-' (by simp)) (by decide)
  · rfl

private theorem isTime_of_digits : isTime word = false := by
  unfold isTime
  split
  · exact absurd (digits ':' (by simp)) (by decide)
  · rfl

private theorem isDatetime_of_digits : isDatetime word = false := by
  have front : isDate (word.take 10) = false :=
    isDate_of_digits fun digit member => digits digit (List.mem_of_mem_take member)
  rw [isDatetime, isDate_of_digits digits, isTime_of_digits digits, front]
  rfl

private theorem splitAt?_of_digits (isSeparator : Char → Bool)
    (separators : ∀ mark, isSeparator mark = true → mark.isDigit = false) :
    splitAt? isSeparator word = none := by
  have all : word.dropWhile (!isSeparator ·) = [] := by
    rw [List.dropWhile_eq_nil_iff]
    intro digit member
    rw [Bool.not_eq_true']
    by_contra separates
    have other := separators digit (Bool.not_eq_false _ ▸ separates)
    rw [digits digit member] at other
    cases other
  rw [splitAt?, all]

private theorem sign_of_digits : sign word = (false, word) := by
  unfold sign
  split
  · exact absurd (digits '-' (by simp)) (by decide)
  · exact absurd (digits '+' (by simp)) (by decide)
  · rfl

private theorem decimalDigits?_of_digits (nonempty : word ≠ [])
    (leading : ∀ others, word = '0' :: others → others = []) :
    decimalDigits? word = some word := by
  unfold decimalDigits?
  split
  case h_1 => rfl
  case h_2 others single =>
    cases leading others rfl
    contradiction
  case h_3 => exact digits?_of_digits digits nonempty

private theorem isFloat_of_digits : isFloat word = false := by
  have inf : word ≠ "inf".toList := by
    rintro rfl
    exact notMem_of_digits digits 'i' (by decide) (by decide)
  have nan : word ≠ "nan".toList := by
    rintro rfl
    exact notMem_of_digits digits 'n' (by decide) (by decide)
  have mark := splitAt?_of_digits digits (fun mark => mark = 'e' || mark = 'E')
    (by simp [or_imp, forall_and])
  have point := splitAt?_of_digits digits (· = '.') (by simp)
  simp only [isFloat, sign_of_digits digits, inf, nan, or_self, if_false, mark, point]
  grind

private theorem integer?_of_digits (nonempty : word ≠ [])
    (leading : ∀ others, word = '0' :: others → others = []) :
    integer? word = bounded? (numeral 10 word) := by
  rw [integer?]
  · rw [sign_of_digits digits]
    dsimp only
    rw [decimalDigits?_of_digits digits nonempty leading, Option.bind_eq_bind,
      Option.bind_some]
    exact congrArg bounded? (if_neg Bool.false_ne_true)
  · rintro rest rfl
    cases leading _ rfl
  · rintro rest rfl
    cases leading _ rfl
  · rintro rest rfl
    cases leading _ rfl

end Digits

/-- A number is read back from its digits. -/
theorem scalar?_toDigits (small : number ≤ signedMaximum) :
    scalar? (Nat.toDigits 10 number) = some (.integer number) := by
  have digits := isDigit_toDigits number
  have leading : ∀ others, Nat.toDigits 10 number = '0' :: others → others = [] := by
    intro others zero
    have := head_toDigits number zero
    subst this
    rw [Nat.toDigits_zero, List.cons.injEq] at zero
    exact zero.2.symm
  have yes : Nat.toDigits 10 number ≠ "true".toList := by
    intro same
    exact notMem_of_digits digits 't' (by decide) (same ▸ by decide)
  have no : Nat.toDigits 10 number ≠ "false".toList := by
    intro same
    exact notMem_of_digits digits 'f' (by decide) (same ▸ by decide)
  have fits : FitsSigned number := by
    unfold signedMaximum at small
    unfold FitsSigned
    omega
  rw [scalar?, if_neg yes, if_neg no, isDatetime_of_digits digits,
    isFloat_of_digits digits, integer?_of_digits digits Nat.toDigits_ne_nil leading,
    numeral_eq_ofDigitChars digits, Nat.ofDigitChars_ten_toDigits, bounded?, if_pos fits]
  rfl

private theorem takeWord_toDigits :
    takeWord (Nat.toDigits 10 number ++ '\n' :: rest) =
      (Nat.toDigits 10 number, '\n' :: rest) := by
  have inside : ∀ digit ∈ Nat.toDigits 10 number, isWordCharacter digit = true := by
    intro digit member
    simp [isWordCharacter, Char.isAlphanum, isDigit_toDigits number digit member]
  rw [takeWord, List.takeWhile_append_of_pos inside,
    List.takeWhile_cons_of_neg (by decide), List.append_nil,
    List.dropWhile_append_of_pos inside, List.dropWhile_cons_of_neg (by decide)]
  grind

theorem cons_ne_of_satisfies {test : Char → Bool} {character other : Char}
    {more : List Char} (inside : test character = true) (outside : test other = false) :
    character :: rest ≠ other :: more :=
  fun same => ne_of_satisfies inside outside (List.cons.inj same).1

private theorem toDigits_opens (number : Nat) :
    ∃ first more, Nat.toDigits 10 number = first :: more ∧ first.isDigit = true := by
  rcases List.exists_cons_of_ne_nil (Nat.toDigits_ne_nil (b := 10) (n := number)) with
    ⟨first, more, digits⟩
  exact ⟨first, more, digits, isDigit_toDigits number first (digits ▸ List.mem_cons_self)⟩

/-! ## Scalars -/

/-- A value that can be written. -/
inductive Scalar where
  | text (value : String)
  | natural (value : Nat)
  deriving DecidableEq, Repr

namespace Scalar

def value : Scalar → Value
  | text value => .string value
  | natural value => .integer value

def written : Scalar → List Char
  | text value => stringText value.toList
  | natural value => Nat.toDigits 10 value

/-- Numbers must not be too large for the format. -/
def Fits : Scalar → Prop
  | text _ => True
  | natural value => value ≤ signedMaximum

instance : ∀ scalar : Scalar, Decidable scalar.Fits
  | text _ => inferInstanceAs (Decidable True)
  | natural value => inferInstanceAs (Decidable (value ≤ signedMaximum))

theorem value_injective : Function.Injective value := by
  intro left right same
  cases left with
  | text left =>
      cases right with
      | text right => cases same; rfl
      | natural right => cases same
  | natural left =>
      cases right with
      | text right => cases same
      | natural right => rw [Int.ofNat.inj (Value.integer.inj same)]

private theorem stringText_opens (text : List Char) :
    ∃ more, stringText text = '"' :: more ∨ stringText text = '\'' :: more := by
  unfold stringText
  cases form text with
  | basic => exact ⟨_, .inl rfl⟩
  | literal => exact ⟨_, .inr rfl⟩
  | basicBlock => exact ⟨_, .inl rfl⟩
  | literalBlock => exact ⟨_, .inr rfl⟩

theorem skipBlanks_written (scalar : Scalar) :
    skipBlanks (scalar.written ++ rest) = scalar.written ++ rest := by
  cases scalar with
  | text value =>
      rcases stringText_opens value.toList with ⟨more, opened | opened⟩
      · rw [written, opened]
        rfl
      · rw [written, opened]
        rfl
  | natural value =>
      rcases toDigits_opens value with ⟨first, more, digits, digit⟩
      have blank : first ≠ ' ' := ne_of_satisfies digit (by decide)
      have tab : first ≠ '\t' := ne_of_satisfies digit (by decide)
      rw [written, digits]
      exact List.dropWhile_cons_of_neg (by simp [isBlank, blank, tab])

theorem value?_written {scalar : Scalar} (fits : scalar.Fits) (fuel depth : Nat) :
    value? (fuel + 1) depth (scalar.written ++ '\n' :: rest) =
      some (scalar.value, '\n' :: rest) := by
  cases scalar with
  | text value =>
      have read := string?_stringText value.toList rest
      rcases stringText_opens value.toList with ⟨more, opened | opened⟩
      all_goals
        rw [written, opened, List.cons_append, value?, ← List.cons_append, ← opened, read]
        simp [Scalar.value]
  | natural value =>
      rcases toDigits_opens value with ⟨first, more, digits, digit⟩
      rw [written, value?, takeWord_toDigits]
      · dsimp only
        rw [scalar?_toDigits fits]
        rfl
      all_goals
        rw [digits]
        exact fun _ => cons_ne_of_satisfies digit (by decide)

end Scalar

end ClockDiscipline.Toml
