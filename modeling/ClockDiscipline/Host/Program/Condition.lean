import ClockDiscipline.Host.FileSystem

/-!
Conditions on words, numbers and files, in the notation of the host's `test` program. A
condition is true, false or malformed.
-/

namespace ClockDiscipline.Condition

abbrev Value := Option Bool

def exitCode : Value → Nat
  | some true => 0
  | some false => 1
  | none => 2

/-! ## Single tests -/

def digitsValue (digits : List Char) : Nat :=
  digits.foldl (fun value digit => value * 10 + (digit.toNat - '0'.toNat)) 0

def integer? (word : String) : Option Int :=
  let isBlank (character : Char) : Bool := character = ' ' || character = '\t'
  let unsigned? (characters : List Char) : Option Nat :=
    let digits := characters.takeWhile Char.isDigit
    if digits.isEmpty || !(characters.drop digits.length).all isBlank then none
    else some (digitsValue digits)
  match word.toList.dropWhile isBlank with
  | '-' :: rest => (unsigned? rest).map fun value => -(value : Int)
  | '+' :: rest => (unsigned? rest).map fun value => (value : Int)
  | rest => (unsigned? rest).map fun value => (value : Int)

def stickyPlaces : List Place := [["tmp"], ["var", "tmp"], ["dev", "shm"]]

def sizelessPlaces : List Place := [["proc"], ["sys"], ["dev", "pts"]]

def fileTest? (files : FileSystem) (letter : Char) : Option (String → Bool) :=
  let satisfies (test : Node → Bool) (path : String) : Bool :=
    match files.lookup path with
    | .ok node => test node
    | .error _ => false
  match letter with
  | 'e' | 'r' | 'w' | 'O' | 'G' => some (satisfies fun _ => true)
  | 'd' => some (satisfies Node.isDirectory)
  | 'x' => some (satisfies fun node => node.isDirectory || node matches .program)
  | 'c' => some (satisfies fun node => node matches .device _ || node matches .terminal)
  | 'f' => some (satisfies fun node => node matches .program || node matches .file _)
  | 's' => some fun path =>
      match files.resolve path with
      | .ok walk =>
          match walk.node with
          | some (.file content) => content ≠ ""
          | some .program => true
          | some (.directory _) => !sizelessPlaces.any (· <+: walk.place)
          | _ => false
      | .error _ => false
  | 'h' | 'L' => some fun path =>
      match files.lookupLink path with
      | .ok (.link _) => true
      | _ => false
  | 'k' => some fun path =>
      match files.resolve path with
      | .ok walk => stickyPlaces.contains walk.place && walk.node.isSome
      | .error _ => false
  | 'b' | 'g' | 'p' | 'u' | 'N' | 'S' => some fun _ => false
  | _ => none

def numberTest? (operator : String) : Option (Int → Int → Bool) :=
  match operator with
  | "-eq" => some fun left right => left = right
  | "-ne" => some fun left right => left ≠ right
  | "-lt" => some fun left right => left < right
  | "-le" => some fun left right => left ≤ right
  | "-gt" => some fun left right => right < left
  | "-ge" => some fun left right => right ≤ left
  | _ => none

/-- Comparisons of files. Files in memory have no age; `missingIsOldest` says whether a
file is newer than none. -/
def filePairTest? (files : FileSystem) (missingIsOldest : Bool) (operator : String) :
    Option (String → String → Bool) :=
  match operator with
  | "-ef" => some files.areSame
  | "-nt" => some fun left right =>
      missingIsOldest && files.pathExists left && !files.pathExists right
  | "-ot" => some fun left right =>
      missingIsOldest && files.pathExists right && !files.pathExists left
  | _ => none

/-! ## The program's grammar -/

def isBinary (word : String) : Bool :=
  ["=", "==", "!=", "-ef", "-nt", "-ot"].contains word || (numberTest? word).isSome

/-- A term of two words around an operator, and the words behind it. Before each of the
two `-l` may stand, which asks for the size of the word. -/
def binaryTerm (files : FileSystem) (leftSize : Bool) (words : List String) :
    Option (Bool × List String) := do
  let words := if leftSize then words.tail else words
  let left ← words[0]?
  let operator ← words[1]?
  let rightSize := 3 < words.length && words[2]? = some "-l"
  let shifted := if rightSize then words.tail else words
  match numberTest? operator with
  | some test =>
      let size (word : String) : Int := word.length
      let first ← if leftSize then some (size left) else integer? left
      let second ← if rightSize then (words[3]?).map size else words[2]? >>= integer?
      return (test first second, shifted.drop 3)
  | none =>
      match filePairTest? files true operator with
      | some test =>
          if leftSize || rightSize then none
          else return (test left (← words[2]?), shifted.drop 3)
      | none =>
          let isEqual := (← shifted[0]?) = (← shifted[2]?)
          return (if operator = "!=" then !isEqual else isEqual, shifted.drop 3)

def isSwitch (word : String) : Bool :=
  match word.toList with
  | ['-', _] => true
  | _ => false

def unaryTerm (files : FileSystem) (words : List String) :
    Option (Bool × List String) := do
  let operator ← words[0]?
  let word ← words[1]?
  let value ← match operator with
    | "-n" => some (word ≠ "")
    | "-z" => some (word = "")
    -- No descriptor of a program that the station runs is a terminal.
    | "-t" => (integer? word).map fun _ => false
    | _ => operator.toList[1]? >>= fileTest? files >>= fun test => some (test word)
  return (value, words.drop 2)

mutual

def ofCount (files : FileSystem) : (fuel : Nat) → (count : Nat) → List String →
    Option (Bool × List String)
  | 0, _, _ => none
  | _ + 1, 0, _ => none
  | _ + 1, 1, words => do return ((← words.head?) ≠ "", words.tail)
  | _ + 1, 2, words => do
      if (← words.head?) = "!" then return ((← words[1]?) = "", words.drop 2)
      else if isSwitch (← words.head?) then unaryTerm files words
      else none
  | fuel + 1, 3, words => do
      let first ← words[0]?
      let second ← words[1]?
      if isBinary second then binaryTerm files false words
      else if first = "!" then
        let (value, rest) ← ofCount files fuel 2 words.tail
        return (!value, rest)
      else if first = "(" ∧ words[2]? = some ")" then return (second ≠ "", words.drop 3)
      else if second = "-a" ∨ second = "-o" then alternatives files fuel words
      else none
  | fuel + 1, 4, words => do
      let first ← words[0]?
      if first = "!" then
        let (value, rest) ← ofCount files fuel 3 words.tail
        return (!value, rest)
      else if first = "(" ∧ words[3]? = some ")" then
        let (value, rest) ← ofCount files fuel 2 words.tail
        return (value, rest.drop 1)
      else alternatives files fuel words
  | fuel + 1, _, words => alternatives files fuel words

def term (files : FileSystem) : (fuel : Nat) → List String → Option (Bool × List String)
  | 0, _ => none
  | _ + 1, [] => none
  | fuel + 1, "!" :: rest => do
      let (value, rest) ← term files fuel rest
      return (!value, rest)
  | fuel + 1, "(" :: rest => do
      if rest.isEmpty then none
      -- Up to four words may stand before the closing parenthesis; more are read without
      -- counting.
      let inner := (rest.tail.takeWhile (· ≠ ")")).length + 1
      match ← ofCount files fuel (if inner ≤ 4 then inner else rest.length) rest with
      | (value, ")" :: rest) => return (value, rest)
      | _ => none
  | _ + 1, first :: rest =>
      let words := first :: rest
      if 4 ≤ words.length ∧ first = "-l" ∧ (words[2]?).any isBinary then
        binaryTerm files true words
      else if 3 ≤ words.length ∧ (words[1]?).any isBinary then
        binaryTerm files false words
      else if isSwitch first then unaryTerm files words
      else some (first ≠ "", rest)

def conjunction (files : FileSystem) :
    (fuel : Nat) → List String → Option (Bool × List String)
  | 0, _ => none
  | fuel + 1, words => do
      match ← term files fuel words with
      | (value, "-a" :: rest) =>
          let (other, rest) ← conjunction files fuel rest
          return (value && other, rest)
      | (value, rest) => return (value, rest)

def alternatives (files : FileSystem) :
    (fuel : Nat) → List String → Option (Bool × List String)
  | 0, _ => none
  | fuel + 1, words => do
      match ← conjunction files fuel words with
      | (value, "-o" :: rest) =>
          let (other, rest) ← alternatives files fuel rest
          return (value || other, rest)
      | (value, rest) => return (value, rest)

end

/-- The value of a condition, whose grammar depends on the number of its words. -/
def evaluate (files : FileSystem) (words : List String) : Value :=
  if words.isEmpty then some false
  else
    match ofCount files (4 * words.length + 4) words.length words with
    | some (value, []) => some value
    | _ => none

end ClockDiscipline.Condition
