/-!
Text between double quotes for the journal. Quotes and backslashes get a backslash,
characters that do not print are named by an escape. Decided for characters below U+0100,
which is all that the fields of a sentence can hold.
-/

namespace ClockDiscipline.Text.Quoted

/-- Control characters, the blank that never breaks and the soft hyphen leave no mark on
paper. -/
def isUnprintable (character : Char) : Bool :=
  character.toNat < 0x20 || (0x7f ≤ character.toNat && character.toNat ≤ 0xa0) ||
    character.toNat == 0xad

def escape (character : Char) : List Char :=
  match character with
  | '"' => ['\\', '"']
  | '\\' => ['\\', '\\']
  | '\t' => ['\\', 't']
  | '\r' => ['\\', 'r']
  | '\n' => ['\\', 'n']
  | '\x00' => ['\\', '0']
  | other =>
      if isUnprintable other then
        ['\\', 'u', '\x7b'] ++ Nat.toDigits 16 other.toNat ++ ['\x7d']
      else
        [other]

def quote (text : String) : String :=
  String.ofList ('"' :: text.toList.flatMap escape ++ ['"'])

example : quote "V\u0085\"" = "\"V\\u\x7b85\x7d\\\"\"" := by decide +kernel

end ClockDiscipline.Text.Quoted
