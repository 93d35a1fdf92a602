import ClockDiscipline.Host.Program.Shell.Pattern

/-!
What words stand for, before and after they are cut into fields. The characters of a word
remember whether they are quoted, and lie in stretches, which are cut in different ways.
-/

namespace ClockDiscipline.Shell

inductive Cell where
  | character (value : Char) (isQuoted : Bool)
  | quotes
  deriving DecidableEq, Repr

inductive Cutting where
  | never
  | atSeparators
  | betweenArguments
  deriving DecidableEq, Repr

structure Stretch where
  cutting : Cutting
  cells : List Cell
  deriving DecidableEq, Repr

namespace Cell

def argumentEnd : Char := '\x00'

def ofText (isQuoted : Bool) (text : String) : List Cell :=
  (if isQuoted then [quotes] else []) ++ text.toList.map (character · isQuoted)

def characters (cells : List Cell) : List PatternCharacter :=
  cells.filterMap fun
    | character value isQuoted => some (value, isQuoted)
    | quotes => none

def text (cells : List Cell) : String := String.ofList ((characters cells).map Prod.fst)

end Cell

namespace Stretch

/-- A text that stands in a word. It may be cut only if it lies in a parameter. -/
def ofText (isQuoted isInParameter : Bool) (text : String) : Stretch :=
  ⟨if isInParameter && !isQuoted then .atSeparators else .never,
    Cell.ofText isQuoted text⟩

def ofValue (isQuoted : Bool) (value : String) : Stretch :=
  ⟨if isQuoted then .never else .atSeparators, Cell.ofText isQuoted value⟩

def characters (stretches : List Stretch) : List PatternCharacter :=
  Cell.characters (stretches.flatMap (·.cells))

def text (stretches : List Stretch) : String := Cell.text (stretches.flatMap (·.cells))

end Stretch

/-! ## Cutting -/

structure Cutter where
  fields : List (List Cell)
  field : List Cell
  left : Option Nat
  kept : Option Nat
  isBehindBlank : Bool
  isBehindArguments : Bool

namespace Cutter

def start (limit : Option Nat) : Cutter := ⟨[], [], limit, none, false, false⟩

def push (cutter : Cutter) (cell : Cell) : Cutter :=
  { cutter with field := cell :: cutter.field }

def finish (cutter : Cutter) : Cutter :=
  { cutter with fields := cutter.field.reverse :: cutter.fields, field := [] }

structure Kind where
  isSeparator : Bool
  isBlank : Bool

def kind (separators : List Char) (value : Char) : Kind :=
  let isSeparator := value = Cell.argumentEnd || separators.contains value
  ⟨isSeparator,
    isSeparator && (value = Cell.argumentEnd || " \t\n".toList.contains value)⟩

def takeLast (cutter : Cutter) (kind : Kind) : Cutter :=
  if kind.isBlank then { cutter with kept := some (cutter.kept.getD cutter.field.length) }
  else
    { cutter with
      kept := if kind.isSeparator && cutter.isBehindBlank then cutter.kept else none
      isBehindBlank := false }

/-- Take a separator. `blanksCount` says that blanks are not different from other
separators. -/
def separate (cutter : Cutter) (cell : Cell) (isBlank blanksCount : Bool) : Cutter :=
  let isBehindBlank := isBlank && !blanksCount
  if cutter.field.isEmpty && isBehindBlank then { cutter with isBehindBlank := false }
  else
    match cutter.left with
    | some 1 =>
        { cutter.push cell with
          left := some 0
          kept := some cutter.field.length
          isBehindBlank }
    | left => { cutter.finish with left := left.map (· - 1), isBehindBlank }

def take (separators : List Char) (isBetweenArguments : Bool) (cutter : Cutter)
    (cell : Cell) : Cutter :=
  match cell with
  | .quotes => cutter.push cell
  | .character value _ =>
      let kind := kind separators value
      if cutter.left = some 0 then (cutter.takeLast kind).push cell
      else if cutter.isBehindBlank && kind.isSeparator then
        { cutter with isBehindBlank := kind.isBlank }
      else if kind.isSeparator then
        cutter.separate cell kind.isBlank (isBetweenArguments || cutter.isBehindArguments)
      else { cutter.push cell with isBehindBlank := false }

def takeStretch (separators : List Char) (cutter : Cutter) (stretch : Stretch) : Cutter :=
  let cutter := { cutter with isBehindBlank := false }
  match stretch.cutting with
  | .never => { cutter with field := stretch.cells.reverse ++ cutter.field }
  | .atSeparators =>
      { stretch.cells.foldl (take separators false) cutter with
        isBehindArguments := false }
  | .betweenArguments =>
      { stretch.cells.foldl (take [] true) cutter with isBehindArguments := true }

def cut (separators : List Char) (limit : Option Nat) (stretches : List Stretch) :
    List (List Cell) :=
  let cutter := stretches.foldl (takeStretch separators) (start limit)
  let last := cutter.field.reverse
  let last := match cutter.kept with
    | some count => last.take count
    | none => last
  let all := if last.isEmpty && !cutter.isBehindArguments then cutter.fields
    else last :: cutter.fields
  all.reverse

example : (cut [' '] none [.ofValue false "a  b", .ofValue true "c d"]).map Cell.text =
    ["a", "bc d"] := by decide +kernel

end Cutter

end ClockDiscipline.Shell
