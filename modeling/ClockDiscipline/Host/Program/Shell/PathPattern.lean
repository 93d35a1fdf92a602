import ClockDiscipline.Host.FileSystem
import ClockDiscipline.Host.Program.Shell.Pattern

/-!
Patterns that stand for the paths of files. Each name along a path has a pattern of its
own.
-/

namespace ClockDiscipline.Shell.PathPattern

def withQuotes : List PatternCharacter → List PatternCharacter
  | ('\\', false) :: (character, _) :: rest => (character, true) :: withQuotes rest
  | ('\\', false) :: [] => [('\\', true)]
  | character :: rest => character :: withQuotes rest
  | [] => []

def isSlash (character : PatternCharacter) : Bool := character.1 = '/'

def isSpecial : List PatternCharacter → Bool
  | [] => false
  | ('*', false) :: _ | ('?', false) :: _ => true
  | ('[', false) :: rest =>
      let members := match rest with
        | ('!', false) :: members => members
        | members => members
      members.tail.contains (']', false) || isSpecial rest
  | _ :: rest => isSpecial rest

/-- The text in front of the first name that is special, that name, and what follows
behind a slash. The fuel bounds the number of names. -/
def splitAtSpecial : (fuel : Nat) → (front : String) → List PatternCharacter →
    String × Option (List PatternCharacter × Option (List PatternCharacter))
  | 0, front, _ => (front, none)
  | fuel + 1, front, characters =>
      let name := characters.takeWhile (!isSlash ·)
      let rest := characters.drop name.length
      if isSpecial name then (front, some (name, rest.tail? ))
      else
        let front := front ++ String.ofList (name.map Prod.fst)
        match rest with
        | [] => (front, none)
        | _ :: rest => splitAtSpecial fuel (front.push '/') rest

/-- Names in a directory for which a pattern stands. A dot at the front has to be written
out. -/
def namesIn (files : FileSystem) (directory : String) (name : List PatternCharacter) :
    List String :=
  match files.lookup (if directory = "" then "." else directory) with
  | .ok (.directory entries) =>
      let pattern := Pattern.ofCharacters name
      let showsHidden := (name.head?.map Prod.fst) = some '.'
      (["." , ".."] ++ entries.map Prod.fst).filter fun entry =>
        (showsHidden || !entry.startsWith ".") && pattern.covers entry.toList
  | _ => []

def pathsBehind (files : FileSystem) : (fuel : Nat) → (directory : String) →
    List PatternCharacter → List String
  | 0, _, _ => []
  | fuel + 1, directory, characters =>
      match splitAtSpecial (characters.length + 1) directory characters with
      | (path, none) =>
          if directory ≠ "" && (files.lookupLink path).isOk then [path] else []
      | (around, some (name, behind)) =>
          let found := (namesIn files around name).map (around ++ ·)
          match behind with
          | none => found
          | some behind =>
              found.flatMap fun path => pathsBehind files fuel (path.push '/') behind

def paths (files : FileSystem) (characters : List PatternCharacter) : List String :=
  let found := pathsBehind files (characters.length + 1) "" (withQuotes characters)
  found.mergeSort fun first second => !(second < first)

end ClockDiscipline.Shell.PathPattern
