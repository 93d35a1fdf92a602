/-!
Blank characters, in the sense of the Unicode property `White_Space`, and the two
operations that depend on them: cutting a line into words and dropping what trails a line.
-/

namespace ClockDiscipline.Text

def blankRanges : List (Nat × Nat) :=
  [(0x9, 0xd), (0x20, 0x20), (0x85, 0x85), (0xa0, 0xa0), (0x1680, 0x1680),
    (0x2000, 0x200a), (0x2028, 0x2029), (0x202f, 0x202f), (0x205f, 0x205f),
    (0x3000, 0x3000)]

def isBlank (character : Char) : Bool :=
  blankRanges.any fun range => range.1 ≤ character.toNat && character.toNat ≤ range.2

example : (blankRanges.map fun range => range.2 + 1 - range.1).sum = 25 := rfl

/-! ## Words -/

/-- Words of a line, where `current` is the unfinished word, last character first. -/
def wordsFrom (current : List Char) : List Char → List String
  | [] => if current.isEmpty then [] else [String.ofList current.reverse]
  | character :: rest =>
      if isBlank character then
        if current.isEmpty then wordsFrom [] rest
        else String.ofList current.reverse :: wordsFrom [] rest
      else
        wordsFrom (character :: current) rest

def words (line : String) : List String :=
  wordsFrom [] line.toList

example : words " test\u2003-f x " = ["test", "-f", "x"] := by decide +kernel

/-! ## Trailing blanks -/

def trimEnd (line : String) : String :=
  String.ofList (line.toList.reverse.dropWhile isBlank).reverse

end ClockDiscipline.Text
