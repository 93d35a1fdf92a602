/-!
Lists of values with names. A name that is put again keeps its place in the list.
-/

namespace ClockDiscipline.Table

variable {α : Type}

/-- Let a name lead to a value. A new name comes last. -/
def put (name : String) (value : α) : List (String × α) → List (String × α)
  | [] => [(name, value)]
  | (other, old) :: rest =>
      if other = name then (name, value) :: rest else (other, old) :: put name value rest

def erase (name : String) (table : List (String × α)) : List (String × α) :=
  table.filter (·.1 ≠ name)

theorem lookup_put_self (name : String) (value : α) (table : List (String × α)) :
    (put name value table).lookup name = some value := by
  induction table with
  | nil => simp [put]
  | cons entry rest ih =>
    obtain ⟨key, old⟩ := entry
    by_cases same : key = name
    · simp [put, same]
    · have different : (name == key) = false := by simpa using Ne.symm same
      simp [put, same, List.lookup_cons, different, ih]

end ClockDiscipline.Table
