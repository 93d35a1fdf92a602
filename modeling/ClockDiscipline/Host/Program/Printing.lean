import ClockDiscipline.Host.Errno
import ClockDiscipline.Host.Program.Fraction
import ClockDiscipline.Host.Program.Layout

/-!
Texts that programs print: escapes in a text, and formats that are filled with arguments.
Characters stand for bytes.
-/

namespace ClockDiscipline.Printing

/-! ## Escapes -/

def isOctal (character : Char) : Bool := '0' ≤ character && character ≤ '7'

def escapeLetters : List (Char × Char) :=
  [('n', '\n'), ('t', '\t'), ('r', '\r'), ('\\', '\\'), ('a', '\x07'), ('b', '\x08'),
    ('e', '\x1b'), ('f', '\x0c'), ('v', '\x0b')]

/-- The character behind a backslash, and what follows. At most three octal digits make a
byte. A backslash that begins no escape stands for itself. -/
def takeEscape (characters : List Char) : Char × List Char :=
  match characters with
  | [] => ('\\', [])
  | letter :: rest =>
      if isOctal letter then
        let digits := (characters.take 3).takeWhile isOctal
        (Char.ofNat (Number.ofDigits 8 digits % 256), characters.drop digits.length)
      else
        match escapeLetters.lookup letter with
        | some character => (character, rest)
        | none => ('\\', characters)

private theorem length_takeEscape (characters : List Char) :
    (takeEscape characters).2.length ≤ characters.length := by
  unfold takeEscape
  repeat' split
  all_goals simp

def withoutZero : List Char → List Char
  | '0' :: digit :: rest => if isOctal digit then digit :: rest else '0' :: digit :: rest
  | characters => characters

private theorem length_withoutZero (characters : List Char) :
    (withoutZero characters).length ≤ characters.length := by
  unfold withoutZero
  repeat' split
  all_goals simp

/-- The text that escapes stand for, and whether `\c` ends it. A zero may stand before the
octal digits. -/
def unescape : List Char → List Char × Bool
  | [] => ([], false)
  | '\\' :: rest =>
      if rest.head? = some 'c' then ([], true)
      else
        let (more, isOver) := unescape (takeEscape (withoutZero rest)).2
        ((takeEscape (withoutZero rest)).1 :: more, isOver)
  | character :: rest =>
      let (more, isOver) := unescape rest
      (character :: more, isOver)
termination_by characters => characters.length
decreasing_by
  · have := length_takeEscape (withoutZero rest)
    have := length_withoutZero rest
    simp only [List.length_cons]
    omega
  · simp

example : unescape "a\\0101\\tb\\cd".toList = ("aA\tb".toList, true) := by
  decide +kernel

def wordsText (hasEscapes : Bool) (words : List String) : String :=
  let (isOpen, words) := match words with
    | "-n" :: rest => (true, rest)
    | words => (false, words)
  let text := " ".intercalate words
  let (text, isOver) :=
    if hasEscapes then
      let (characters, isOver) := unescape text.toList
      (String.ofList characters, isOver)
    else (text, false)
  if isOpen || isOver then text else text ++ "\n"

/-! ## Formats -/

inductive Complaint where
  | notANumber (argument : String)
  | notOnlyANumber (argument : String)
  | outOfRange (argument : String)
  | missingDirective
  | unknownDirective (directive : String)
  deriving DecidableEq, Repr

namespace Complaint

def message : Complaint → String
  | notANumber argument => argument ++ ": expected numeric value"
  | notOnlyANumber argument => argument ++ ": not completely converted"
  | outOfRange argument => argument ++ ": " ++ Errno.outOfRange.description
  | missingDirective => "missing format character"
  | unknownDirective directive => directive ++ ": invalid directive"

def isFatal : Complaint → Bool
  | missingDirective | unknownDirective _ => true
  | _ => false

end Complaint

structure Progress where
  arguments : List String
  pieces : List String
  complaints : List Complaint
  isOver : Bool

namespace Progress

def print (progress : Progress) (text : String) : Progress :=
  { progress with pieces := text :: progress.pieces }

def complain (progress : Progress) (complaint : Complaint) : Progress :=
  { progress with
    complaints := complaint :: progress.complaints
    isOver := progress.isOver || complaint.isFatal }

def next (progress : Progress) : Option String × Progress :=
  (progress.arguments.head?, { progress with arguments := progress.arguments.tail })

def check (progress : Progress) (argument : String) (rest : Option (List Char))
    (isOutOfRange : Bool) : Progress :=
  match rest with
  | none => if argument = "" then progress else progress.complain (.notANumber argument)
  | some (_ :: _) => progress.complain (.notOnlyANumber argument)
  | some [] => if isOutOfRange then progress.complain (.outOfRange argument) else progress

def quotedCode? (argument : String) : Option Nat :=
  match argument.toList with
  | quote :: rest =>
      if quote = '\'' ∨ quote = '"' then some ((rest.head?.map Char.toNat).getD 0)
      else none
  | [] => none

def nextSigned (progress : Progress) : Int × Progress :=
  match progress.next with
  | (none, progress) => (0, progress)
  | (some argument, progress) =>
      match quotedCode? argument with
      | some code => (code, progress)
      | none =>
          let reading := Number.read? false argument.toList
          (reading.elim 0 (·.signed),
            progress.check argument (reading.map (·.rest)) (reading.any (·.isTooLarge)))

def nextUnsigned (progress : Progress) : Nat × Progress :=
  match progress.next with
  | (none, progress) => (0, progress)
  | (some argument, progress) =>
      match quotedCode? argument with
      | some code => (code, progress)
      | none =>
          let reading := Number.read? false argument.toList
          (reading.elim 0 (·.unsigned), progress.check argument (reading.map (·.rest))
            (reading.any fun reading => Number.range ≤ reading.magnitude))

def nextFraction (progress : Progress) : Float × Progress :=
  match progress.next with
  | (none, progress) => (0, progress)
  | (some argument, progress) =>
      match quotedCode? argument with
      | some code => (Float.ofNat code, progress)
      | none =>
          let reading := Fraction.read? argument.toList
          (reading.elim 0 (·.value),
            progress.check argument (reading.map (·.rest)) (reading.any (·.isOutOfRange)))

/-- Print what a directive makes of the next argument. `written` is the directive as it
stands. -/
def direct (progress : Progress) (layout : Layout) (letter : Char) (written : String) :
    Progress :=
  let unsigned (base : Nat) : Progress :=
    let (value, progress) := progress.nextUnsigned
    let text := layout.unsigned base value
    progress.print (if letter = 'X' then text.toUpper else text)
  let fraction (style : Layout.Style) : Progress :=
    let (value, progress) := progress.nextFraction
    progress.print (layout.fraction style letter.isUpper value)
  match letter.toLower, letter.isUpper with
  | 's', false =>
      let (argument, progress) := progress.next
      progress.print (layout.text (argument.getD ""))
  | 'b', false =>
      let (argument, progress) := progress.next
      let (characters, isOver) := unescape (argument.getD "").toList
      { progress.print (layout.text (String.ofList characters)) with isOver }
  | 'c', false =>
      let (argument, progress) := progress.next
      let character := (argument.getD "").toList.headD '\x00'
      progress.print ({ layout with precision := none }.text (String.singleton character))
  | 'd', false | 'i', false =>
      let (value, progress) := progress.nextSigned
      progress.print (layout.signed value)
  | 'o', false => unsigned 8
  | 'u', false => unsigned 10
  | 'x', _ => unsigned 16
  | 'e', _ => fraction .scientific
  | 'f', _ => fraction .positional
  | 'g', _ => fraction .general
  | 'a', _ => fraction .hexadecimal
  | _, _ => progress.complain (.unknownDirective written)

def takeSize (progress : Progress) (format : List Char) : Int × List Char × Progress :=
  let isPart (character : Char) : Bool := character = '*' || character.isDigit
  let written := format.takeWhile isPart
  let rest := format.drop written.length
  if written.head? = some '*' then
    let (value, progress) := progress.nextSigned
    (value, rest, progress)
  else (Number.ofDigits 10 (written.takeWhile Char.isDigit), rest, progress)

def takeDirective (progress : Progress) (format : List Char) : Progress × List Char :=
  let flags := format.takeWhile "#-+ 0".toList.contains
  let (width, rest, progress) := progress.takeSize (format.drop flags.length)
  let (precision, rest, progress) := match rest with
    | '.' :: rest =>
        let (precision, rest, progress) := progress.takeSize rest
        (if precision < 0 then none else some precision.toNat, rest, progress)
    | rest => (none, rest, progress)
  match rest with
  | [] => (progress.complain .missingDirective, [])
  | letter :: rest =>
      let layout : Layout := {
        isLeft := flags.contains '-' || width < 0
        hasPlus := flags.contains '+'
        hasBlank := flags.contains ' '
        isAlternate := flags.contains '#'
        hasZeros := flags.contains '0'
        width := width.natAbs
        precision }
      let written := format.take (format.length - rest.length)
      (progress.direct layout letter (String.ofList ('%' :: written)), rest)

def fill : (fuel : Nat) → List Char → Progress → Progress
  | 0, _, progress => progress
  | _ + 1, [], progress => progress
  | fuel + 1, '%' :: '%' :: format, progress => fill fuel format (progress.print "%")
  | fuel + 1, '%' :: format, progress =>
      let (progress, format) := progress.takeDirective format
      if progress.isOver then progress else fill fuel format progress
  | fuel + 1, '\\' :: format, progress =>
      let (character, format) := takeEscape format
      fill fuel format (progress.print (String.singleton character))
  | fuel + 1, character :: format, progress =>
      fill fuel format (progress.print (String.singleton character))

/-- Fill a format again and again as long as arguments are left and it uses some up. -/
def fillAll : (fuel : Nat) → List Char → Progress → Progress
  | 0, _, progress => progress
  | fuel + 1, format, progress =>
      let filled := fill (format.length + 1) format progress
      if filled.isOver || filled.arguments.isEmpty ||
          filled.arguments.length = progress.arguments.length then filled
      else fillAll fuel format filled

end Progress

def formatted (format : String) (arguments : List String) : String × List Complaint :=
  let progress :=
    Progress.fillAll (arguments.length + 1) format.toList ⟨arguments, [], [], false⟩
  (String.join progress.pieces.reverse, progress.complaints.reverse)

end ClockDiscipline.Printing
