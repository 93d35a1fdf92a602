/-!
Patterns of the shell: a star stands for any characters, a question mark for one, and
brackets for one of a set. A quoted character stands for itself, as does one behind a
backslash.
-/

namespace ClockDiscipline.Shell

abbrev PatternCharacter := Char × Bool

inductive PatternItem where
  | exactly (character : Char)
  | anyOne
  | anyRun
  | oneOf (isNegated : Bool) (ranges : List (Char × Char))
  deriving DecidableEq, Repr

abbrev Pattern := List PatternItem

namespace Pattern

/-! ## Reading -/

def namedSets : List (String × List (Char × Char)) :=
  [("alnum", [('0', '9'), ('A', 'Z'), ('a', 'z')]), ("alpha", [('A', 'Z'), ('a', 'z')]),
    ("blank", [(' ', ' '), ('\t', '\t')]),
    ("cntrl", [('\x00', '\x1f'), ('\x7f', '\x7f')]), ("digit", [('0', '9')]),
    ("graph", [('!', '~')]), ("lower", [('a', 'z')]), ("print", [(' ', '~')]),
    ("punct", [('!', '/'), (':', '@'), ('[', '\x60'), ('\x7b', '~')]),
    ("space", [(' ', ' '), ('\t', '\r')]), ("upper", [('A', 'Z')]),
    ("xdigit", [('0', '9'), ('A', 'F'), ('a', 'f')])]

def takeNamed? (characters : List PatternCharacter) :
    Option (List (Char × Char) × List PatternCharacter) :=
  match characters with
  | (':', false) :: rest =>
      let name := rest.takeWhile fun (letter, _) => letter ≠ ':'
      match rest.drop name.length with
      | (':', false) :: (']', false) :: rest =>
          (namedSets.lookup (String.ofList (name.map Prod.fst))).map (·, rest)
      | _ => none
  | _ => none

def takeMember? : List PatternCharacter → Option (Char × List PatternCharacter)
  | [] => none
  | ('\\', false) :: (character, _) :: rest => some (character, rest)
  | (character, _) :: rest => some (character, rest)

/-- The ranges up to a closing bracket, and what follows. A bracket that comes first is a
member. -/
def takeRanges : (fuel : Nat) → (isFirst : Bool) → List PatternCharacter →
    Option (List (Char × Char) × List PatternCharacter)
  | 0, _, _ => none
  | _ + 1, _, [] => none
  | fuel + 1, isFirst, first :: rest =>
      let more (ranges : List (Char × Char)) (rest : List PatternCharacter) :
          Option (List (Char × Char) × List PatternCharacter) := do
        let (others, rest) ← takeRanges fuel false rest
        return (ranges ++ others, rest)
      if first = (']', false) ∧ !isFirst then some ([], rest)
      else
        match if first = ('[', false) then takeNamed? rest else none with
        | some (ranges, rest) => more ranges rest
        | none => do
            let (lowest, rest) ← takeMember? (first :: rest)
            match rest with
            | ('-', false) :: (']', false) :: _ => more [(lowest, lowest)] rest
            | ('-', false) :: rest => do
                let (highest, rest) ← takeMember? rest
                more [(lowest, highest)] rest
            | _ => more [(lowest, lowest)] rest

def ofCharactersWithin : (fuel : Nat) → List PatternCharacter → Pattern
  | 0, _ => []
  | _ + 1, [] => []
  | fuel + 1, (character, true) :: rest =>
      .exactly character :: ofCharactersWithin fuel rest
  | fuel + 1, ('*', false) :: rest => .anyRun :: ofCharactersWithin fuel rest
  | fuel + 1, ('?', false) :: rest => .anyOne :: ofCharactersWithin fuel rest
  | fuel + 1, ('\\', false) :: (character, _) :: rest =>
      .exactly character :: ofCharactersWithin fuel rest
  | fuel + 1, ('[', false) :: rest =>
      let (isNegated, members) := match rest with
        | ('!', false) :: members => (true, members)
        | members => (false, members)
      match takeRanges (members.length + 1) true members with
      | some (ranges, rest) => .oneOf isNegated ranges :: ofCharactersWithin fuel rest
      | none => .exactly '[' :: ofCharactersWithin fuel rest
  | fuel + 1, (other, false) :: rest => .exactly other :: ofCharactersWithin fuel rest

def ofCharacters (characters : List PatternCharacter) : Pattern :=
  ofCharactersWithin (characters.length + 1) characters

/-! ## Matching -/

/-- The place of a character in the order of sets, where the bytes behind ASCII come
first. -/
def rank (character : Char) : Nat := (character.toNat + 128) % 256

def admits (ranges : List (Char × Char)) (character : Char) : Bool :=
  ranges.any fun (lowest, highest) =>
    rank lowest ≤ rank character && rank character ≤ rank highest

def covers : Pattern → List Char → Bool
  | [], [] => true
  | [], _ :: _ => false
  | .anyRun :: items, [] => covers items []
  | .anyRun :: items, character :: rest =>
      covers items (character :: rest) || covers (.anyRun :: items) rest
  | _ :: _, [] => false
  | .exactly expected :: items, character :: rest =>
      character = expected && covers items rest
  | .anyOne :: items, _ :: rest => covers items rest
  | .oneOf isNegated ranges :: items, character :: rest =>
      admits ranges character != isNegated && covers items rest
termination_by pattern characters => pattern.length + characters.length

def cutFront (pattern : Pattern) (longest : Bool) (text : List Char) : List Char :=
  let sizes := List.range (text.length + 1)
  let ordered := if longest then sizes.reverse else sizes
  match ordered.find? fun size => covers pattern (text.take size) with
  | some size => text.drop size
  | none => text

def cutBack (pattern : Pattern) (longest : Bool) (text : List Char) : List Char :=
  let sizes := List.range (text.length + 1)
  let ordered := if longest then sizes else sizes.reverse
  match ordered.find? fun size => covers pattern (text.drop size) with
  | some size => text.take size
  | none => text

end Pattern

end ClockDiscipline.Shell
