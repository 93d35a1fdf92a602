import ClockDiscipline.Nmea.Fields
import ClockDiscipline.Proofs.Checked.Basic
import ClockDiscipline.Station.Reception

/-!
What a sentence tells, with checks. Its fields are written to the places of a table of
fixed size, and the seconds that it can tell lie in one century.
-/

namespace ClockDiscipline

namespace Nmea

/-! ## The table of fields -/

/-- Write fields to their places, where `field` is the one being read and `index` its
place. -/
def fill (table : Array Field) (index : Nat) (field : Field) :
    List UInt8 → Except Fault (Array Field)
  | [] => return table
  | byte :: rest =>
      if maxFields ≤ index then return table
      else if field.isOversized || byte == carriageReturn then return table
      else if byte = comma then do
        let written ← Checked.write table index field
        let next ← Checked.add index 1
        fill written next .empty rest
      else
        match field.push? (Char.ofNat byte.toNat) with
        | some longer => fill table index longer rest
        | none => return table

def overwritten (table : Array Field) (index : Nat) (fields : List Field) : List Field :=
  table.toList.take index ++ fields ++ table.toList.drop (index + fields.length)

private theorem overwritten_nil (table : Array Field) (index : Nat) :
    overwritten table index [] = table.toList := by
  simp [overwritten]

private theorem overwritten_set {table : Array Field} {index : Nat}
    (within : index < table.size) (field : Field) (fields : List Field) :
    overwritten (table.set index field) (index + 1) fields =
      overwritten table index (field :: fields) := by
  have kept := List.take_set_of_le (a := field) (l := table.toList) (Nat.le_refl index)
  have behind := List.drop_set_of_lt (a := field) (l := table.toList)
    (show index < index + (fields.length + 1) by omega)
  simp [overwritten, List.take_add_one, kept, behind, within, Nat.add_assoc,
    Nat.add_comm 1]

/-- A table takes what a split gives, from the present place on. -/
private theorem fill_eq (bytes : List UInt8) :
    ∀ {table : Array Field} {index room : Nat} (field : Field),
    table.size = maxFields → index + room = maxFields →
      ∃ filled, fill table index field bytes = .ok filled ∧
        filled.toList = overwritten table index (split room field bytes) := by
  induction bytes with
  | nil =>
      intro table index room field size places
      have none : split room field [] = [] := by cases room <;> rfl
      exact ⟨table, rfl, by rw [none, overwritten_nil]⟩
  | cons byte rest induction =>
      intro table index room field size places
      cases room with
      | zero =>
          refine ⟨table, ?_, by rw [split, overwritten_nil]⟩
          rw [fill, if_pos (by omega)]
          rfl
      | succ room =>
          have within : index < table.size := by omega
          have counts : index + 1 < unsignedLimit := by
            have small : maxFields < unsignedLimit := by decide
            omega
          rw [fill, split, if_neg (by omega)]
          by_cases ends : (field.isOversized || byte == carriageReturn) = true
          · rw [if_pos ends, if_pos ends, overwritten_nil]
            exact ⟨table, rfl, rfl⟩
          rw [if_neg ends, if_neg ends]
          by_cases separates : byte = comma
          · rw [if_pos separates, if_pos separates, ← overwritten_set within,
              Checked.write_eq within, Checked.add_eq counts]
            exact induction .empty (by rwa [Array.size_set]) (by omega)
          · rw [if_neg separates, if_neg separates]
            cases field.push? (Char.ofNat byte.toNat) with
            | some longer => exact induction longer size places
            | none => exact ⟨table, rfl, by rw [overwritten_nil]⟩

theorem fill_empty (bytes : List UInt8) : ∃ filled,
    fill (Array.replicate maxFields .empty) 0 .empty bytes = .ok filled ∧
      ∀ index, (filled[index]?.getD .empty).text = (Fields.ofBytes bytes).get index := by
  have places : (Array.replicate maxFields Field.empty).size = maxFields :=
    Array.size_replicate
  rcases fill_eq bytes .empty places (Nat.zero_add maxFields) with
    ⟨filled, fills, contents⟩
  refine ⟨filled, fills, fun index => ?_⟩
  have listed : filled.toList = (Fields.ofBytes bytes).fields ++
      List.replicate (maxFields - (Fields.ofBytes bytes).fields.length) .empty := by
    rw [contents, overwritten, Array.toList_replicate, List.drop_replicate]
    simp [Fields.ofBytes]
  rw [← Array.getElem?_toList, listed, Fields.get, List.getElem?_append]
  split
  · rename_i present
    rw [List.getElem?_eq_getElem present]
    rfl
  · rename_i absent
    rw [List.getElem?_replicate, List.getElem?_eq_none (Nat.le_of_not_lt absent)]
    split <;> rfl

/-! ## Seconds -/

private theorem pairValue_lt {tens units : Char} {value : Nat}
    (taken : pairValue tens units = some value) :
    value < 100 := by
  have digit {character : Char} (isDigit : character.isDigit = true) :
      character.toNat - '0'.toNat ≤ 9 := by
    have bounds : character.toNat ≤ '9'.toNat := (Char.isDigit_iff_toNat.mp isDigit).2
    have span : '9'.toNat = '0'.toNat + 9 := rfl
    omega
  unfold pairValue at taken
  split at taken
  · rename_i digits
    have one := digit digits
    split at taken
    · rename_i tensDigits
      have ten := digit tensDigits
      simp only [Option.some.injEq] at taken
      omega
    · split at taken
      · simp only [Option.some.injEq] at taken
        omega
      · cases taken
  · cases taken

private theorem threePairs_lt {text : String} {first second third : Nat}
    (taken : threePairs text = some (first, second, third)) : third < 100 := by
  unfold threePairs at taken
  split at taken
  · simp only [Option.bind_eq_bind, Option.bind_eq_some_iff, Option.pure_def,
      Option.some.injEq, Prod.mk.injEq] at taken
    rcases taken with ⟨_, -, _, -, last, taken, -, -, rfl⟩
    exact pairValue_lt taken
  · cases taken

end Nmea

theorem Date.daysInMonth_le (year month : Nat) : daysInMonth year month ≤ 31 := by
  unfold daysInMonth
  split
  · split <;> decide
  all_goals decide

private theorem Date.daysBeforeMonth_le (year month : Nat) :
    daysBeforeMonth year month ≤ 31 * month := by
  fun_induction daysBeforeMonth year month with
  | case1 => omega
  | case2 => omega
  | case3 month _ induction =>
      have days := daysInMonth_le year month
      omega

/-- All seconds of the years from 2000 on, up to a century. -/
theorem instantOf_bounds {date : Date} {time : TimeOfDay} {utc : Int}
    (known : instantOf date time = some utc) (late : 2000 ≤ date.year)
    (early : date.year < 2100) : 0 ≤ utc ∧ utc < 4200000000 := by
  unfold instantOf at known
  split at known
  · rename_i valid
    rcases valid with ⟨⟨_, month, _, day⟩, hour, minute, second⟩
    have days := Date.daysInMonth_le date.year date.month
    have before := Date.daysBeforeMonth_le date.year date.month
    cases known
    simp only [Date.dayNumber, Date.daysBeforeYear, TimeOfDay.seconds]
    omega
  · cases known

private theorem Nmea.instant?_bounds {date time : String} {utc : Int}
    (told : instant? date time = some utc) : 0 ≤ utc ∧ utc < 4200000000 := by
  simp only [instant?, Option.bind_eq_bind, Option.bind_eq_some_iff] at told
  rcases told with ⟨⟨day, month, year⟩, pairs, ⟨hour, minute, second⟩, -, told⟩
  have century := threePairs_lt pairs
  exact instantOf_bounds told (Nat.le_add_right _ _) (by show 2000 + year < 2100; omega)

theorem Nmea.Fields.signed_next {fields : Fields} {utc : Int}
    (told : fields.utc? = some utc) :
    Checked.signed .addition (utc + 1) = .ok (utc + 1) := by
  have bounds := instant?_bounds told
  refine Checked.signed_eq ⟨?_, ?_⟩ <;> omega

end ClockDiscipline
