/-!
Reading bytes as UTF-8 text when some of them are not. Each longest start of a sequence
that no sequence continues becomes one replacement character.
-/

namespace ClockDiscipline.Text.Lossy

def replacement : Char := '\ufffd'

def isBetween (low high byte : UInt8) : Bool := low ≤ byte && byte ≤ high

def isContinuation (byte : UInt8) : Bool := isBetween 0x80 0xbf byte

def startsThree (first second : UInt8) : Bool :=
  (first == 0xe0 && isBetween 0xa0 0xbf second) ||
    ((isBetween 0xe1 0xec first || isBetween 0xee 0xef first) && isContinuation second) ||
    (first == 0xed && isBetween 0x80 0x9f second)

def startsFour (first second : UInt8) : Bool :=
  (first == 0xf0 && isBetween 0x90 0xbf second) ||
    (isBetween 0xf1 0xf3 first && isContinuation second) ||
    (first == 0xf4 && isBetween 0x80 0x8f second)

def payload (byte : UInt8) : Nat := byte.toNat % 64

/-- Split off the first character, or the first piece that is none. -/
def decodeFirst (first : UInt8) (rest : List UInt8) : Char × List UInt8 :=
  if first < 0x80 then (Char.ofNat first.toNat, rest)
  else
    match rest with
    | [] => (replacement, [])
    | second :: afterSecond =>
        if isBetween 0xc2 0xdf first && isContinuation second then
          (Char.ofNat (first.toNat % 32 * 64 + payload second), afterSecond)
        else if startsThree first second then
          match afterSecond with
          | [] => (replacement, [])
          | third :: afterThird =>
              if isContinuation third then
                (Char.ofNat
                  ((first.toNat % 16 * 64 + payload second) * 64 + payload third),
                  afterThird)
              else (replacement, afterSecond)
        else if startsFour first second then
          match afterSecond with
          | [] => (replacement, [])
          | third :: afterThird =>
              if isContinuation third then
                match afterThird with
                | [] => (replacement, [])
                | fourth :: afterFourth =>
                    if isContinuation fourth then
                      (Char.ofNat
                        (((first.toNat % 8 * 64 + payload second) * 64 + payload third)
                        * 64 + payload fourth), afterFourth)
                    else (replacement, afterThird)
              else (replacement, afterSecond)
        else (replacement, rest)

private theorem length_decodeFirst (first : UInt8) (rest : List UInt8) :
    (decodeFirst first rest).2.length ≤ rest.length := by
  unfold decodeFirst
  repeat' split
  all_goals (simp only [List.length_cons, List.length_nil]; omega)

def decodeCharacters : List UInt8 → List Char
  | [] => []
  | first :: rest =>
      (decodeFirst first rest).1 :: decodeCharacters (decodeFirst first rest).2
  termination_by bytes => bytes.length
  decreasing_by exact Nat.lt_succ_of_le (length_decodeFirst first rest)

def decode (bytes : List UInt8) : String :=
  String.ofList (decodeCharacters bytes)

example :
    decode [0x41, 0xe6, 0x97, 0xa5, 0xe6, 0x97, 0x42, 0xff] = "A日\ufffdB\ufffd" := by
  decide +kernel

end ClockDiscipline.Text.Lossy
