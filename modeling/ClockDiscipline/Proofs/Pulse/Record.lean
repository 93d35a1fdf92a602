import ClockDiscipline.Proofs.Fields.Digits
import ClockDiscipline.Pulse.Control
import Mathlib.Data.Int.ModEq
import Mathlib.Data.List.TakeWhile
import Mathlib.Tactic.Ring

/-!
What other programs can read in a status record. The record has a fixed size: a time of 32
bits and a slot for each text. A text that leaves room for a zero and holds none is read
back as it was.
-/

namespace ClockDiscipline.Pulse

/-! ## Numbers -/

def unsigned : List UInt8 → Nat
  | [] => 0
  | byte :: rest => byte.toNat + 256 * unsigned rest

/-- The number of which these are the bytes in two's complement. -/
def signed (bytes : List UInt8) : Int := (unsigned bytes : Int).bmod (256 ^ bytes.length)

@[simp] theorem length_littleEndian (size : Nat) :
    ∀ value, (littleEndian size value).length = size := by
  induction size with
  | zero => exact fun _ => rfl
  | succ size induction =>
      intro value
      rw [littleEndian, List.length_cons, induction]

private theorem unsigned_littleEndian (size : Nat) : ∀ value : Int,
    (unsigned (littleEndian size value) : Int) = value % (256 ^ size : Nat) := by
  induction size with
  | zero => simp [littleEndian, unsigned]
  | succ size induction =>
      intro value
      have low : ((value % 256).toNat.toUInt8.toNat : Int) = value % 256 := by
        simp only [Nat.toUInt8_eq, UInt8.toNat_ofNat']
        omega
      rw [littleEndian, unsigned, Nat.cast_add, Nat.cast_mul, induction, low, pow_succ']
      push_cast
      rw [Int.emod_def, Int.emod_def, Int.emod_def, Int.ediv_mul, if_neg (by omega)]
      ring

private theorem signed_littleEndian (size : Nat) (value : Int) :
    signed (littleEndian size value) = value.bmod (256 ^ size) := by
  rw [signed, unsigned_littleEndian, length_littleEndian, Int.emod_bmod]

/-! ## Texts -/

private theorem utf8_eq (text : String) : utf8 text = text.toByteArray.data.toList :=
  (Nmea.toList_toByteArray text).symm

theorem toByteArray_utf8 (text : String) :
    (utf8 text).toByteArray = text.toByteArray := by
  apply ByteArray.ext
  rw [utf8_eq, List.data_toByteArray, Array.toArray_toList]

theorem length_utf8 (text : String) : (utf8 text).length = text.utf8ByteSize := by
  rw [utf8_eq, ← String.size_toByteArray]
  rfl

private theorem zero_notMem_map_ofNat (codes : List Nat)
    (bytes : ∀ code ∈ codes, 0 < code ∧ code < 256) : 0 ∉ codes.map UInt8.ofNat := by
  intro member
  rcases List.mem_map.mp member with ⟨code, among, zero⟩
  rcases bytes code among with ⟨positive, below⟩
  rw [← UInt8.toNat_inj, UInt8.toNat_ofNat_of_lt' below] at zero
  exact positive.ne' zero

private theorem zero_mem_utf8EncodeChar_iff {character : Char} :
    0 ∈ String.utf8EncodeChar character ↔ character = '\x00' := by
  constructor
  · intro member
    by_contra other
    have positive : 0 < character.val.toNat := by
      apply Nat.pos_of_ne_zero
      intro zero
      exact other (Char.ext (UInt32.toNat_inj.mp zero))
    -- One case for each number of bytes. All bytes but a single one are marked, so none
    -- is zero.
    rw [String.utf8EncodeChar] at member
    split at member
    · have below : character.val.toNat < 256 := by omega
      exact zero_notMem_map_ofNat [_] (by simpa using ⟨positive, below⟩) member
    · split at member
      · exact zero_notMem_map_ofNat [_, _] (by simp; omega) member
      · split at member
        · exact zero_notMem_map_ofNat [_, _, _] (by simp; omega) member
        · exact zero_notMem_map_ofNat [_, _, _, _] (by simp; omega) member
  · rintro rfl
    decide

private theorem zero_mem_utf8_iff {text : String} :
    0 ∈ utf8 text ↔ '\x00' ∈ text.toList := by
  simp [utf8, zero_mem_utf8EncodeChar_iff]

/-- What other programs take for the text of a slot: the bytes before the first zero, if
they are UTF-8. -/
def shown? (slot : List UInt8) : Option String :=
  String.fromUTF8? (slot.takeWhile (· ≠ 0)).toByteArray

private theorem take_utf8_of_short {text : String} (short : text.utf8ByteSize ≤ 31) :
    (utf8 text).take 31 = utf8 text := by
  apply List.take_of_length_le
  rw [length_utf8]
  exact short

private theorem textSlot_eq (text : String) :
    textSlot text =
      (utf8 text).take 31 ++ List.replicate (32 - min text.utf8ByteSize 31) 0 := by
  rw [textSlot, List.length_take, length_utf8, Nat.min_comm]
  rfl

private theorem length_textSlot (text : String) : (textSlot text).length = 32 := by
  rw [textSlot_eq, List.length_append, List.length_take, List.length_replicate,
    length_utf8]
  omega

private theorem shown?_textSlot {text : String} (short : text.utf8ByteSize ≤ 31)
    (ends : '\x00' ∉ text.toList) : shown? (textSlot text) = some text := by
  have nonzero : ∀ byte ∈ utf8 text, (byte ≠ 0 : Bool) := by
    intro byte member
    apply decide_eq_true
    rintro rfl
    exact ends (zero_mem_utf8_iff.mp member)
  have room : 32 - min text.utf8ByteSize 31 = (31 - text.utf8ByteSize) + 1 := by omega
  rw [shown?, textSlot_eq, take_utf8_of_short short, room, List.replicate_succ,
    List.takeWhile_append_of_pos nonzero, List.takeWhile_cons_of_neg (by decide),
    List.append_nil, toByteArray_utf8]
  exact dif_pos text.isValidUTF8

-- A character that the end of the slot cuts in two is none.
example : shown? (textSlot (String.ofList (List.replicate 30 'a') ++ "é")) = none := by
  decide +kernel

/-! ## Records -/

/-- The slot that follows the time and `index` other slots. -/
def slot (index : Nat) (record : List UInt8) : List UInt8 :=
  (record.drop (4 + 32 * index)).take 32

def Status.texts (status : Status) : List String :=
  [status.errorText, status.latitude, status.longitude]

private theorem slot_of_texts {texts : List String} {index : Nat} {text : String}
    (holds : texts[index]? = some text) :
    ((texts.flatMap textSlot).drop (32 * index)).take 32 = textSlot text := by
  induction index generalizing texts with
  | zero =>
      cases texts with
      | nil => cases holds
      | cons first rest =>
          cases holds
          exact List.take_left' (length_textSlot text)
  | succ index induction =>
      cases texts with
      | nil => cases holds
      | cons first rest =>
          rw [List.flatMap_cons, Nat.mul_succ, Nat.add_comm, ← List.drop_drop,
            List.drop_left' (length_textSlot first)]
          exact induction holds

namespace Status

variable {status : Status}

private theorem record_eq (status : Status) : status.record =
    littleEndian 4 status.lastSynchronised ++ status.texts.flatMap textSlot := by
  simp [record, texts]

private theorem time_record (status : Status) :
    status.record.take 4 = littleEndian 4 status.lastSynchronised := by
  rw [record_eq]
  exact List.take_left' (length_littleEndian _ _)

private theorem slot_record {index : Nat} {text : String}
    (holds : status.texts[index]? = some text) :
    slot index status.record = textSlot text := by
  rw [slot, record_eq, ← List.drop_drop, List.drop_left' (length_littleEndian _ _)]
  exact slot_of_texts holds

theorem uncut_of_short {index : Nat} {text : String}
    (holds : status.texts[index]? = some text)
    (short : text.utf8ByteSize ≤ 31) :
    text.toByteArray.data.toList <+: slot index status.record := by
  rw [slot_record holds, textSlot_eq, take_utf8_of_short short, utf8_eq]
  exact List.prefix_append _ _

private theorem length_record (status : Status) : status.record.length = 100 := by
  rw [record_eq]
  simp [texts, length_textSlot]

/-- A record that other programs can read. -/
structure IsReadable (status : Status) : Prop where
  submitted : ∀ outcome,
    ((Request.publish status).submit outcome).1.argument = some status.record
  size : status.record.length = 100
  time : (unsigned (status.record.take 4) : Int) = status.lastSynchronised % 2 ^ 32
  signedTime : signed (status.record.take 4) = status.lastSynchronised ↔
    -2 ^ 31 ≤ status.lastSynchronised ∧ status.lastSynchronised < 2 ^ 31
  slots : ∀ index text, status.texts[index]? = some text →
    slot index status.record = text.toByteArray.data.toList.take 31 ++
      List.replicate (32 - min text.utf8ByteSize 31) 0
  readBack : ∀ index text, status.texts[index]? = some text → text.utf8ByteSize ≤ 31 →
    '\x00' ∉ text.toList → shown? (slot index status.record) = some text

theorem isReadable (status : Status) : status.IsReadable where
  submitted _ := rfl
  size := status.length_record
  time := by
    rw [time_record, unsigned_littleEndian]
    rfl
  signedTime := by
    rw [time_record, signed_littleEndian]
    constructor
    · intro same
      have low := Int.le_bmod (x := status.lastSynchronised) (m := 256 ^ 4) (by decide)
      have high := Int.bmod_lt (x := status.lastSynchronised) (m := 256 ^ 4) (by decide)
      omega
    · rintro ⟨low, high⟩
      exact Int.bmod_eq_of_le (by omega) (by omega)
  slots index text holds := by
    rw [slot_record holds, textSlot_eq, utf8_eq]
  readBack index text holds short ends := by
    rw [slot_record holds]
    exact shown?_textSlot short ends

end Status

end ClockDiscipline.Pulse
