import ClockDiscipline.Overflow

/-!
Computation with checks. Sums, differences, remainders and places in storage of fixed size
stop a computation when they go wrong. What a checked computation comes to shows that none
of its checks failed.
-/

namespace ClockDiscipline

/-- What stops a checked computation. -/
inductive Fault where
  | overflow (step : Overflow)
  | zeroDivisor
  | noPlace (place size : Nat)
  deriving DecidableEq, Repr

namespace Checked

/-- A computation that has come to a value goes on with it. As the equation is not stated
by definition, rewriting with it never compares what follows by computation. -/
theorem ok_bind {ε α β : Type} (value : α) (next : α → Except ε β) :
    (Except.ok value >>= next) = next value := (rfl)

/-! ## Arithmetic -/

def add (left right : Nat) : Except Fault Nat :=
  (addUnsigned left right).mapError .overflow

def sub (left right : Nat) : Except Fault Nat :=
  if right ≤ left then .ok (left - right) else .error (.overflow .subtraction)

def mod (left right : Nat) : Except Fault Nat :=
  if right = 0 then .error .zeroDivisor else .ok (left % right)

def signed (step : Overflow) (value : Int) : Except Fault Int :=
  (requireSigned step value).mapError .overflow

theorem add_eq {left right : Nat} (fits : left + right < unsignedLimit) :
    add left right = .ok (left + right) := by
  rw [add, addUnsigned_eq_ok_iff.mpr ⟨fits, rfl⟩]
  rfl

theorem sub_eq {left right : Nat} (ordered : right ≤ left) :
    sub left right = .ok (left - right) :=
  if_pos ordered

theorem mod_eq {left right : Nat} (positive : 0 < right) :
    mod left right = .ok (left % right) :=
  if_neg (Nat.ne_of_gt positive)

theorem signed_eq {step : Overflow} {value : Int} (fits : FitsSigned value) :
    signed step value = .ok value := by
  rw [signed, requireSigned_eq_ok_iff.mpr ⟨fits, rfl⟩]
  rfl

/-! ## Storage -/

variable {α : Type}

/-- The first places may be taken together. -/
def requireSpan (length size : Nat) : Except Fault Unit :=
  if length ≤ size then .ok () else .error (.noPlace length size)

def read (slots : Array α) (place : Nat) : Except Fault α :=
  if within : place < slots.size then .ok slots[place]
  else .error (.noPlace place slots.size)

def write (slots : Array α) (place : Nat) (item : α) : Except Fault (Array α) :=
  if within : place < slots.size then .ok (slots.set place item)
  else .error (.noPlace place slots.size)

theorem requireSpan_eq {length size : Nat} (within : length ≤ size) :
    requireSpan length size = .ok () :=
  if_pos within

theorem read_eq {slots : Array α} {place : Nat} (within : place < slots.size) :
    read slots place = .ok slots[place] :=
  dif_pos within

theorem write_eq {slots : Array α} {place : Nat} {item : α}
    (within : place < slots.size) : write slots place item = .ok (slots.set place item) :=
  dif_pos within

end Checked

end ClockDiscipline
