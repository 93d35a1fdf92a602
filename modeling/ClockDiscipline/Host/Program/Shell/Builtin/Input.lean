import ClockDiscipline.Host.Program.Shell.Field
import ClockDiscipline.Host.Program.Shell.Variables

/-!
Commands that read what the shell is given and print texts.
-/

namespace ClockDiscipline.Shell.Builtin

/-! ## Reading lines -/

structure LineReader where
  stretches : List Stretch
  present : List Char
  count : Nat
  isWhole : Bool

namespace LineReader

def finish (reader : LineReader) : LineReader :=
  let stretch := Stretch.ofValue false (String.ofList reader.present.reverse)
  { reader with stretches := stretch :: reader.stretches, present := [] }

/-- Read up to the end of a line. A backslash protects the character behind it from being
a separator and joins lines, unless the line is raw. Zeros do not count. -/
def read (isRaw : Bool) : (isProtected : Bool) → LineReader → List Char → LineReader
  | _, reader, [] => reader.finish
  | isProtected, reader, character :: rest =>
      let reader := { reader with count := reader.count + 1 }
      if character = '\x00' then read isRaw isProtected reader rest
      else if isProtected then
        let reader := reader.finish
        let stretches := if character = '\n' then reader.stretches
          else ⟨.never, [.character character true]⟩ :: reader.stretches
        read isRaw false { reader with stretches } rest
      else if character = '\\' ∧ !isRaw then read isRaw true reader rest
      else if character = '\n' then { reader.finish with isWhole := true }
      else read isRaw false { reader with present := character :: reader.present } rest

end LineReader

def assignInOrder : List String → List String → Run Unit
  | [], _ => return
  | name :: names, values => do
      assign name (values.headD "")
      assignInOrder names values.tail

def read (arguments : List String) : Run Nat := do
  let (chosen, names) ← orFail (Arguments.takeOptions "p:r" arguments)
  if names.isEmpty then fail (.misuse "arg count")
  let state ← get
  let waiting := match state.streams.waiting state.files 0 with
    | .ok text => text.toList
    | .error _ => []
  let isRaw := chosen.any (·.letter = 'r')
  let line := LineReader.read isRaw false ⟨[], [], 0, false⟩ waiting
  set { state with streams := state.streams.advance 0 line.count }
  let fields := Cutter.cut state.separators (some names.length) line.stretches.reverse
  assignInOrder names (fields.map Cell.text)
  return if line.isWhole then 0 else 1

/-! ## Printing -/

def echo (arguments : List String) : Run Nat := do
  print (Printing.wordsText true arguments)
  return 0

def printf (arguments : List String) : Run Nat := do
  match ← orFail (Arguments.takeOptions "" arguments) with
  | (_, []) => fail (.misuse "usage: printf format [arg ...]")
  | (_, format :: words) =>
      let (text, complaints) := Printing.formatted format words
      complaints.forM fun complaint =>
        if complaint.isFatal then return else warn complaint.message
      print text
      match complaints.find? (·.isFatal) with
      | some complaint => fail (.misuse complaint.message)
      | none => return if complaints.isEmpty then 0 else 1

end ClockDiscipline.Shell.Builtin
