/-!
Lines of a text. A line ends with a line feed, perhaps behind a carriage return; the last
one may lack its end.
-/

namespace ClockDiscipline.Text

/-- Lines of a text, where `current` is the unfinished line, last character first. -/
def linesFrom (current : List Char) : List Char → List String
  | [] => if current.isEmpty then [] else [String.ofList current.reverse]
  | '\n' :: rest =>
      let line := match current with
        | '\r' :: before => before
        | whole => whole
      String.ofList line.reverse :: linesFrom [] rest
  | character :: rest => linesFrom (character :: current) rest

def lines (text : String) : List String :=
  linesFrom [] text.toList

example : lines "a\r\nb\n\nc\r" = ["a", "b", "", "c\r"] ∧ lines "" = [] := by
  decide +kernel

end ClockDiscipline.Text
