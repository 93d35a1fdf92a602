/-!
Values of a TOML document. A table remembers how it was defined, because that decides what
later lines may add to it; so does an array.
-/

namespace ClockDiscipline.Toml

inductive Origin where
  | inline
  | header
  | implied
  | dotted
  deriving DecidableEq, Repr

inductive Value where
  | string (text : String)
  | integer (value : Int)
  | float (text : String)
  | boolean (value : Bool)
  | datetime (text : String)
  | array (items : List Value)
  | tables (items : List Value)
  | table (origin : Origin) (entries : List (String × Value))
  deriving Repr

abbrev Entries := List (String × Value)

namespace Entries

def find? (entries : Entries) (key : String) : Option Value := List.lookup key entries

def replace (entries : Entries) (key : String) (value : Value) : Entries :=
  entries.map fun entry => if entry.1 = key then (key, value) else entry

def add? (entries : Entries) (key : String) (value : Value) : Option Entries :=
  match entries.find? key with
  | none => some (entries ++ [(key, value)])
  | some _ => none

/-! ## Reaching a table -/

/-- Whether a key can lead through a table. Dotted keys stay out of tables with a
header. -/
def admits (byDottedKey : Bool) : Origin → Bool
  | .inline => false
  | .header => !byDottedKey
  | .implied => true
  | .dotted => true

def createdOrigin (byDottedKey : Bool) : Origin :=
  if byDottedKey then .dotted else .implied

/-- Change the table that a path leads to, creating tables on the way. The last of an
array of tables stands for the array. -/
def modify (byDottedKey : Bool) (change : Origin → Entries → Option Entries) :
    (path : List String) → (origin : Origin) → (entries : Entries) → Option Entries
  | [], origin, entries => change origin entries
  | key :: path, _, entries =>
      match entries.find? key with
      | none => do
          let created := createdOrigin byDottedKey
          let inner ← modify byDottedKey change path created []
          return entries ++ [(key, .table created inner)]
      | some (.table origin inner) =>
          if admits byDottedKey origin then do
            let inner ← modify byDottedKey change path origin inner
            return entries.replace key (.table origin inner)
          else
            none
      | some (.tables items) =>
          match items.getLast? with
          | some (.table origin inner) => do
              let inner ← modify byDottedKey change path origin inner
              return entries.replace key
                (.tables (items.dropLast ++ [.table origin inner]))
          | _ => none
      | some _ => none

/-! ## What lines do -/

/-- Add a key to the table at `path`. A dotted key goes through tables of dotted keys
only. -/
def insert (document : Entries) (path dots : List String) (key : String) (value : Value) :
    Option Entries :=
  let define (origin : Origin) (entries : Entries) : Option Entries :=
    if (origin = .dotted) ↔ dots = [] then none else entries.add? key value
  modify false (modify true define dots) path .header document

def openTable (document : Entries) (path : List String) (key : String) : Option Entries :=
  let define (_ : Origin) (entries : Entries) : Option Entries :=
    match entries.find? key with
    | none => some (entries ++ [(key, .table .header [])])
    | some (.table .implied inner) => some (entries.replace key (.table .header inner))
    | some _ => none
  modify false define path .header document

def openArrayTable (document : Entries) (path : List String) (key : String) :
    Option Entries :=
  let define (_ : Origin) (entries : Entries) : Option Entries :=
    match entries.find? key with
    | none => some (entries ++ [(key, .tables [.table .header []])])
    | some (.tables items) =>
        some (entries.replace key (.tables (items ++ [.table .header []])))
    | some _ => none
  modify false define path .header document

end Entries

end ClockDiscipline.Toml
