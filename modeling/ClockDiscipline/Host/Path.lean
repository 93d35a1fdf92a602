/-!
Paths as texts: names with slashes between them. Slashes at the end and steps to the
directory itself do not count as names.
-/

namespace ClockDiscipline.Path

def trim : List Char → List Char
  | '/' :: rest => trim rest
  | '.' :: '/' :: rest => trim rest
  | characters => characters

/-- The path without its last name; nothing where there is none. -/
def parent? (path : String) : Option String :=
  let trimmed := trim path.toList.reverse
  if trimmed.isEmpty then none
  else
    let above := trimmed.dropWhile (· ≠ '/')
    let parent := trim above
    some (if above.isEmpty then "" else if parent.isEmpty then "/"
      else String.ofList parent.reverse)

example : parent? "a/b.toml" = some "a" ∧ parent? "b" = some "" ∧ parent? "/" = none ∧
    parent? "/b/" = some "/" ∧ parent? "./a/./b" = some "./a" := by decide +kernel

end ClockDiscipline.Path
