import ClockDiscipline.Calendar
import ClockDiscipline.Nmea.Sentence

/-!
Fields of a sentence. The pieces between commas are kept while they are short enough and
there is room for them; nothing is ever cut short. The date and the time of a `$GPRMC`
sentence give an instant of UTC.
-/

namespace ClockDiscipline.Nmea

def maxFields : Nat := 20

/-- The size of a field, one place for its end included. -/
def maxFieldSize : Nat := 20

/-! ## One field -/

def width : List Char → Nat
  | [] => 0
  | character :: rest => character.utf8Size + width rest

structure Field where
  characters : List Char
  width_le : width characters ≤ maxFieldSize

namespace Field

def empty : Field := ⟨[], Nat.zero_le _⟩

def push? (field : Field) (character : Char) : Option Field :=
  if room : width (field.characters ++ [character]) ≤ maxFieldSize then
    some ⟨field.characters ++ [character], room⟩
  else
    none

def isOversized (field : Field) : Bool := maxFieldSize - 1 ≤ width field.characters

def text (field : Field) : String := String.ofList field.characters

end Field

/-! ## All fields -/

/-- The next `room` fields, where `field` is the one being read. Reading stops at a
carriage return, at the end, and at a field that is too long; the field being read is then
lost. -/
def split : (room : Nat) → (field : Field) → List UInt8 → List Field
  | 0, _, _ => []
  | _ + 1, _, [] => []
  | room + 1, field, byte :: rest =>
      if field.isOversized || byte == carriageReturn then []
      else if byte = comma then field :: split room .empty rest
      else
        match field.push? (Char.ofNat byte.toNat) with
        | some longer => split (room + 1) longer rest
        | none => []

private theorem length_split_le (room : Nat) (field : Field) (bytes : List UInt8) :
    (split room field bytes).length ≤ room := by
  fun_induction split room field bytes <;> simp_all

structure Fields where
  fields : List Field
  length_le : fields.length ≤ maxFields

namespace Fields

def empty : Fields := ⟨[], Nat.zero_le _⟩

def ofBytes (bytes : List UInt8) : Fields :=
  ⟨split maxFields .empty bytes, length_split_le _ _ _⟩

def get (fields : Fields) (index : Nat) : String :=
  match fields.fields[index]? with
  | some field => field.text
  | none => ""

def tag (fields : Fields) : String := fields.get 0

end Fields

def fixTag : String := "$GPRMC"

/-! ## Date and time -/

/-- The value of two characters of a field. A plus sign may stand for a leading zero. -/
def pairValue (tens units : Char) : Option Nat :=
  if units.isDigit then
    if tens.isDigit then some ((tens.toNat - '0'.toNat) * 10 + (units.toNat - '0'.toNat))
    else if tens = '+' then some (units.toNat - '0'.toNat)
    else none
  else
    none

def threePairs (text : String) : Option (Nat × Nat × Nat) :=
  match text.toList with
  | a :: b :: c :: d :: e :: f :: _ => do
      let first ← pairValue a b
      let second ← pairValue c d
      let third ← pairValue e f
      return (first, second, third)
  | _ => none

/-- The instant of a date `DDMMYY` and a time `HHMMSS`, in seconds since the start of
1970. The years run from 2000 to 2099; what follows the six characters does not count. -/
def instant? (date time : String) : Option Int := do
  let (day, month, year) ← threePairs date
  let (hour, minute, second) ← threePairs time
  instantOf ⟨2000 + year, month, day⟩ ⟨hour, minute, second⟩

example : instant? "180510" "134724.000" = some 1274190444 := by decide +kernel
example : instant? "321310" "134724" = none := by decide +kernel

end ClockDiscipline.Nmea
