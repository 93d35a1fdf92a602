import ClockDiscipline.Journal.ValuePattern.Reader
import ClockDiscipline.Journal.ValuePattern.Support

/-!
Regular expressions that a directive gives as values of fields. The journal never matches
one, since no entry has such a field, but a directive with a faulty expression is refused,
and the refusal tells what is wrong and where.
-/

namespace ClockDiscipline.ValuePattern

def fault? (pattern : String) : Option Fault :=
  match Expression.ofText pattern >>= Expression.checkWhole with
  | .ok () => none
  | .error fault => some fault

example :
    fault? "a(b|[^c-d]*)+?$" = none ∧ fault? "" = none ∧ fault? "(?i)\\." ≠ none := by
  decide +kernel

example : fault? "a)" = some (.broken .unopenedGroup ⟨⟨1, 1, 2⟩, ⟨2, 1, 3⟩⟩ none) ∧
    fault? "[b-a]" = some (.broken .reversedRange ⟨⟨1, 1, 2⟩, ⟨4, 1, 5⟩⟩ none) := by
  decide +kernel

end ClockDiscipline.ValuePattern
