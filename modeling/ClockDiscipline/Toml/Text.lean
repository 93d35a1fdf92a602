/-!
The smallest parts of a TOML document: blanks, line ends, comments, keys and strings. Each
reader takes characters from the front and returns what it read and what follows.
-/

namespace ClockDiscipline.Toml

/-! ## Blanks and lines -/

def isBlank (character : Char) : Bool := character = ' ' || character = '\t'

/-- Characters that may stand in comments and strings as they are: all but controls, of
which only the tab is allowed. -/
def isPlain (character : Char) : Bool :=
  character = '\t' || (0x20 ≤ character.toNat && character ≠ '\x7f')

def skipBlanks (characters : List Char) : List Char := characters.dropWhile isBlank

def newline? : List Char → Option (List Char)
  | '\n' :: rest => some rest
  | '\r' :: '\n' :: rest => some rest
  | _ => none

def skipComment : List Char → List Char
  | '#' :: rest => rest.dropWhile isPlain
  | characters => characters

def lineEnd? (characters : List Char) : Option (List Char) :=
  match skipComment (skipBlanks characters) with
  | [] => some []
  | rest => newline? rest

/-! ## Escapes -/

def hexValue? (digit : Char) : Option Nat :=
  if '0' ≤ digit ∧ digit ≤ '9' then some (digit.toNat - '0'.toNat)
  else if 'a' ≤ digit ∧ digit ≤ 'f' then some (digit.toNat - 'a'.toNat + 10)
  else if 'A' ≤ digit ∧ digit ≤ 'F' then some (digit.toNat - 'A'.toNat + 10)
  else none

def character? (digits : List Char) : Option Char := do
  let values ← digits.mapM hexValue?
  let code := values.foldl (fun code value => code * 16 + value) 0
  if code.isValidChar then return Char.ofNat code else none

def escaped? : Char → Option Char
  | 'b' => some '\x08'
  | 't' => some '\t'
  | 'n' => some '\n'
  | 'f' => some '\x0c'
  | 'r' => some '\r'
  | '"' => some '"'
  | '\\' => some '\\'
  | _ => none

/-! ## Strings on one line -/

def prepend (character : Char) (read : Option (List Char × List Char)) :
    Option (List Char × List Char) :=
  read.map fun (text, rest) => (character :: text, rest)

def basicBody : List Char → Option (List Char × List Char)
  | [] => none
  | '"' :: rest => some ([], rest)
  | '\\' :: 'u' :: a :: b :: c :: d :: rest => do
      prepend (← character? [a, b, c, d]) (basicBody rest)
  | '\\' :: 'U' :: a :: b :: c :: d :: e :: f :: g :: h :: rest => do
      prepend (← character? [a, b, c, d, e, f, g, h]) (basicBody rest)
  | '\\' :: letter :: rest => do prepend (← escaped? letter) (basicBody rest)
  | character :: rest =>
      if isPlain character && character ≠ '\\' then prepend character (basicBody rest)
      else none

def literalBody : List Char → Option (List Char × List Char)
  | [] => none
  | '\'' :: rest => some ([], rest)
  | character :: rest =>
      if isPlain character then prepend character (literalBody rest) else none

/-! ## Strings on several lines -/

/-- The rest of a string in three double quotes. While `trimming`, blanks and line ends
are skipped, which a backslash at the end of a line asks for. Up to two quotes may stand
before the three. -/
def basicBlock : (trimming : Bool) → List Char → Option (List Char × List Char)
  | _, [] => none
  | trimming, '\n' :: rest =>
      if trimming then basicBlock true rest else prepend '\n' (basicBlock false rest)
  | trimming, '\r' :: '\n' :: rest =>
      if trimming then basicBlock true rest else prepend '\n' (basicBlock false rest)
  | _, '"' :: '"' :: '"' :: '"' :: '"' :: rest => some (['"', '"'], rest)
  | _, '"' :: '"' :: '"' :: '"' :: rest => some (['"'], rest)
  | _, '"' :: '"' :: '"' :: rest => some ([], rest)
  | _, '\\' :: 'u' :: a :: b :: c :: d :: rest => do
      prepend (← character? [a, b, c, d]) (basicBlock false rest)
  | _, '\\' :: 'U' :: a :: b :: c :: d :: e :: f :: g :: h :: rest => do
      prepend (← character? [a, b, c, d, e, f, g, h]) (basicBlock false rest)
  | _, '\\' :: letter :: rest =>
      match escaped? letter with
      | some character => prepend character (basicBlock false rest)
      | none =>
          if (newline? (skipBlanks (letter :: rest))).isSome then
            basicBlock true (letter :: rest)
          else
            none
  | trimming, character :: rest =>
      if trimming && isBlank character then basicBlock true rest
      else if isPlain character && character ≠ '\\' then
        prepend character (basicBlock false rest)
      else none

def literalBlock : List Char → Option (List Char × List Char)
  | [] => none
  | '\n' :: rest => prepend '\n' (literalBlock rest)
  | '\r' :: '\n' :: rest => prepend '\n' (literalBlock rest)
  | '\'' :: '\'' :: '\'' :: '\'' :: '\'' :: rest => some (['\'', '\''], rest)
  | '\'' :: '\'' :: '\'' :: '\'' :: rest => some (['\''], rest)
  | '\'' :: '\'' :: '\'' :: rest => some ([], rest)
  | character :: rest =>
      if isPlain character then prepend character (literalBlock rest) else none

def dropFirstNewline (characters : List Char) : List Char :=
  (newline? characters).getD characters

def string? : List Char → Option (List Char × List Char)
  | '"' :: '"' :: '"' :: rest => basicBlock false (dropFirstNewline rest)
  | '"' :: rest => basicBody rest
  | '\'' :: '\'' :: '\'' :: rest => literalBlock (dropFirstNewline rest)
  | '\'' :: rest => literalBody rest
  | _ => none

/-! ## Keys -/

def isKeyCharacter (character : Char) : Bool :=
  character.isAlphanum || character = '_' || character = '-'

def simpleKey? (characters : List Char) : Option (String × List Char) :=
  match characters with
  | '"' :: rest => (basicBody rest).map fun (text, rest) => (String.ofList text, rest)
  | '\'' :: rest => (literalBody rest).map fun (text, rest) => (String.ofList text, rest)
  | _ =>
      let name := characters.takeWhile isKeyCharacter
      if name.isEmpty then none
      else some (String.ofList name, characters.dropWhile isKeyCharacter)

def depthLimit : Nat := 80

/-- At most `room` keys joined by dots, in order; blanks may surround the dots. -/
def dottedKeys? : (room : Nat) → List Char → Option (List String × List Char)
  | 0, _ => none
  | room + 1, characters => do
      let (key, rest) ← simpleKey? (skipBlanks characters)
      match skipBlanks rest with
      | '.' :: behind => do
          let (keys, rest) ← dottedKeys? room behind
          return (key :: keys, rest)
      | rest => return ([key], rest)

def key? (characters : List Char) : Option (List String × String × List Char) := do
  let (keys, rest) ← dottedKeys? (depthLimit - 1) characters
  let last ← keys.getLast?
  return (keys.dropLast, last, rest)

end ClockDiscipline.Toml
