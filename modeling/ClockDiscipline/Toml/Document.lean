import ClockDiscipline.Toml.Scalar

/-!
A TOML document: values with their nesting, and lines that each define a key or open a
table.
-/

namespace ClockDiscipline.Toml

/-! ## Values -/

def skipLines : (fuel : Nat) → List Char → List Char
  | 0, characters => characters
  | fuel + 1, characters =>
      let rest := skipComment (skipBlanks characters)
      match newline? rest with
      | some behind => skipLines fuel behind
      | none => rest

def skipAllLines (characters : List Char) : List Char :=
  skipLines characters.length characters

mutual

def value? : (fuel : Nat) → (depth : Nat) → List Char → Option (Value × List Char)
  | 0, _, _ => none
  | fuel + 1, depth, characters =>
      match characters with
      | '[' :: rest =>
          if depth + 1 < depthLimit then do
            let (items, rest) ← items? fuel (depth + 1) rest
            return (.array items, rest)
          else
            none
      | '\x7b' :: rest =>
          if depth + 1 < depthLimit then
            match skipBlanks rest with
            | '\x7d' :: behind => some (.table .inline [], behind)
            | rest => do
                let (entries, rest) ← inlineEntries? fuel (depth + 1) [] rest
                return (.table .inline entries, rest)
          else
            none
      | '"' :: _ =>
          (string? characters).map fun (text, rest) =>
            (.string (String.ofList text), rest)
      | '\'' :: _ =>
          (string? characters).map fun (text, rest) =>
            (.string (String.ofList text), rest)
      | _ =>
          let (word, rest) := takeWord characters
          (scalar? word).map (·, rest)

def items? : (fuel : Nat) → (depth : Nat) → List Char → Option (List Value × List Char)
  | 0, _, _ => none
  | fuel + 1, depth, characters =>
      match skipAllLines characters with
      | ']' :: rest => some ([], rest)
      | characters => do
          let (item, rest) ← value? fuel depth characters
          match skipAllLines rest with
          | ',' :: rest => do
              let (items, rest) ← items? fuel depth rest
              return (item :: items, rest)
          | ']' :: rest => return ([item], rest)
          | _ => none

def inlineEntries? : (fuel : Nat) → (depth : Nat) → Entries → List Char →
    Option (Entries × List Char)
  | 0, _, _, _ => none
  | fuel + 1, depth, entries, characters => do
      let (dots, key, rest) ← key? characters
      let rest ← match rest with
        | '=' :: rest => some (skipBlanks rest)
        | _ => none
      let (value, rest) ← value? fuel depth rest
      let entries ← entries.insert [] dots key value
      match skipBlanks rest with
      | ',' :: rest => inlineEntries? fuel depth entries rest
      | '\x7d' :: rest => return (entries, rest)
      | _ => none

end

/-! ## Lines -/

/-- A document being read: what it defines so far, and the table that keys go to. -/
structure Reading where
  document : Entries
  current : List String

def keyLine? (reading : Reading) (characters : List Char) :
    Option (Reading × List Char) := do
  let (dots, key, rest) ← key? characters
  let rest ← match rest with
    | '=' :: rest => some (skipBlanks rest)
    | _ => none
  let (value, rest) ← value? (rest.length + 1) 0 rest
  let rest ← lineEnd? rest
  let document ← reading.document.insert reading.current dots key value
  return ({ reading with document }, rest)

def headerLine? (reading : Reading) (characters : List Char) :
    Option (Reading × List Char) := do
  let (path, key, rest) ← key? characters
  let rest ← match rest with
    | ']' :: rest => lineEnd? rest
    | _ => none
  let document ← reading.document.openTable path key
  return (⟨document, path ++ [key]⟩, rest)

def arrayHeaderLine? (reading : Reading) (characters : List Char) :
    Option (Reading × List Char) := do
  let (path, key, rest) ← key? characters
  let rest ← match rest with
    | ']' :: ']' :: rest => lineEnd? rest
    | _ => none
  let document ← reading.document.openArrayTable path key
  return (⟨document, path ++ [key]⟩, rest)

def line? (reading : Reading) (characters : List Char) : Option (Reading × List Char) :=
  match skipBlanks characters with
  | '[' :: '[' :: rest => arrayHeaderLine? reading rest
  | '[' :: rest => headerLine? reading rest
  | rest =>
      match lineEnd? rest with
      | some behind => some (reading, behind)
      | none => keyLine? reading rest

/-- All lines. Each takes at least one character. -/
def lines? : (fuel : Nat) → Reading → List Char → Option Reading
  | _, reading, [] => some reading
  | 0, _, _ => none
  | fuel + 1, reading, characters => do
      let (reading, rest) ← line? reading characters
      lines? fuel reading rest

def dropByteOrderMark : List Char → List Char
  | '\ufeff' :: rest => rest
  | characters => characters

def parse? (text : String) : Option Entries :=
  let characters := dropByteOrderMark text.toList
  (lines? characters.length ⟨[], []⟩ characters).map (·.document)

end ClockDiscipline.Toml
