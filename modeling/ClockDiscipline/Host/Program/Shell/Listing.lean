/-!
How the shell lists what it knows: values in quotes, so that they can be read again, and
names in an order of their own.
-/

namespace ClockDiscipline.Shell.Listing

/-! ## Quotes -/

/-- Characters in quotes. `isOpen` says whether single quotes are open. Single quotes
among the characters stand in double quotes. -/
def quoteFrom : (isOpen : Bool) → List Char → List Char
  | true, [] => ['\'']
  | false, [] => ['"']
  | true, '\'' :: rest => '\'' :: '"' :: '\'' :: quoteFrom false rest
  | true, character :: rest => character :: quoteFrom true rest
  | false, '\'' :: rest => '\'' :: quoteFrom false rest
  | false, character :: rest => '"' :: '\'' :: character :: quoteFrom true rest

def quoted (text : String) : String := String.ofList ('\'' :: quoteFrom true text.toList)

example : quoted "it's" = "'it'\"'\"'s'" ∧ quoted "" = "''" ∧ quoted "'" = "''\"'\"" := by
  decide +kernel

/-! ## Order -/

/-- The drawer in which a name is kept: its first character counts for more than the
others. -/
def drawer (count : Nat) (name : String) : Nat :=
  let codes := name.toList.map Char.toNat
  (codes.foldl (· + ·) (codes.headD 0 * 16)) % count

def byDrawer {α : Type} (count : Nat) (table : List (String × α)) : List (String × α) :=
  table.mergeSort fun first second => drawer count first.1 ≤ drawer count second.1

def manyDrawers : Nat := 39

def commandDrawers : Nat := 31

def byName {α : Type} (table : List (String × α)) : List (String × α) :=
  table.mergeSort fun first second => !(second.1 < first.1)

end ClockDiscipline.Shell.Listing
