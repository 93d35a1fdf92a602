import ClockDiscipline.Text.Blank
import ClockDiscipline.Text.Lossy

/-!
Sentences of the receiver. A sentence starts with a dollar sign and has at most 128 bytes;
the framer produces those that end with a line feed.
-/

namespace ClockDiscipline.Nmea

def dollar : UInt8 := 0x24
def lineFeed : UInt8 := 0x0a
def carriageReturn : UInt8 := 0x0d
def comma : UInt8 := 0x2c

def maxSentenceLength : Nat := 128

structure Sentence where
  bytes : List UInt8
  starts : bytes.head? = some dollar
  length_le : bytes.length ≤ maxSentenceLength

namespace Sentence

instance : Inhabited Sentence := ⟨⟨[dollar], rfl, by decide⟩⟩

def ofBytes? (bytes : List UInt8) : Option Sentence :=
  if valid : bytes.head? = some dollar ∧ bytes.length ≤ maxSentenceLength then
    some ⟨bytes, valid.1, valid.2⟩
  else
    none

@[simp] theorem ofBytes?_bytes (sentence : Sentence) :
    ofBytes? sentence.bytes = some sentence := by
  simp [ofBytes?, sentence.starts, sentence.length_le]

theorem bytes_of_ofBytes? {bytes : List UInt8} {sentence : Sentence}
    (taken : ofBytes? bytes = some sentence) : sentence.bytes = bytes := by
  unfold ofBytes? at taken
  split at taken <;> simp_all
  rw [← taken]

/-- A sentence as the journal shows it, without its line end. -/
def display (sentence : Sentence) : String :=
  Text.trimEnd (Text.Lossy.decode sentence.bytes)

end Sentence

end ClockDiscipline.Nmea
