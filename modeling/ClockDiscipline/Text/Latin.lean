/-!
Text whose characters stand for single bytes: the character of code `b` is the byte `b`.
-/

namespace ClockDiscipline.Text.Latin

def decode (bytes : List UInt8) : String :=
  String.ofList (bytes.map fun byte => Char.ofNat byte.toNat)

def encode (text : String) : List UInt8 :=
  text.toList.map fun character => character.toNat.toUInt8

example : encode "$PG" = [0x24, 0x50, 0x47] := rfl

/-- The bytes by which a text is stored. -/
def ofText (text : String) : String := decode (text.toList.flatMap String.utf8EncodeChar)

def toText? (bytes : String) : Option String :=
  String.fromUTF8? (encode bytes).toByteArray

example : ofText "aé" = "a\xc3\xa9" := by decide +kernel

end ClockDiscipline.Text.Latin
