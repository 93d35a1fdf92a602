import ClockDiscipline.Nmea.Fields
import ClockDiscipline.Text.Latin
import Mathlib.Data.List.TakeWhile

/-!
Fields as pieces of a sentence. What stands before the first carriage return is cut at its
commas, and the fields are the pieces that a comma ends, as long as there is room for them
and none of them so far was too wide.
-/

namespace ClockDiscipline.Nmea

/-! ## Pieces -/

/-- The pieces between commas, of which the last one is not ended by a comma. -/
def pieces (bytes : List UInt8) : List (List UInt8) :=
  (bytes.takeWhile (· != carriageReturn)).splitOn comma

/-- The places that a piece takes in a field: one for each byte, and one more for each
high byte. -/
def places (piece : List UInt8) : Nat := piece.length + piece.countP (0x80 ≤ ·)

def maxPlaces : Nat := 18

/-- A piece becomes a field: a comma ends it, there is room for it, and neither it nor a
piece before it is too wide. -/
def Kept (bytes : List UInt8) (index : Nat) : Prop :=
  index + 1 < (pieces bytes).length ∧ index < maxFields ∧
    ∀ piece ∈ (pieces bytes).take (index + 1), places piece ≤ maxPlaces

instance (bytes : List UInt8) (index : Nat) : Decidable (Kept bytes index) :=
  inferInstanceAs (Decidable (_ ∧ _ ∧ _))

private theorem pieces_ne_nil (bytes : List UInt8) :
    pieces bytes ≠ [] := List.splitOn_ne_nil _ _

section Ends

variable {piece : List UInt8}

def Inside (piece : List UInt8) : Prop := comma ∉ piece ∧ carriageReturn ∉ piece

private theorem takeWhile_append_of_inside (inside : Inside piece) (rest : List UInt8) :
    (piece ++ rest).takeWhile (· != carriageReturn) =
      piece ++ rest.takeWhile (· != carriageReturn) := by
  apply List.takeWhile_append_of_pos
  intro byte member
  exact bne_iff_ne.mpr fun same => inside.2 (same ▸ member)

private theorem pieces_of_inside (inside : Inside piece) : pieces piece = [piece] := by
  have whole := takeWhile_append_of_inside inside []
  simp only [List.append_nil, List.takeWhile_nil] at whole
  rw [pieces, whole]
  exact List.splitOn_eq_singleton inside.1

private theorem pieces_carriageReturn (inside : Inside piece) (rest : List UInt8) :
    pieces (piece ++ carriageReturn :: rest) = [piece] := by
  rw [pieces, takeWhile_append_of_inside inside, List.takeWhile_cons_of_neg (by simp),
    List.append_nil]
  exact List.splitOn_eq_singleton inside.1

private theorem pieces_comma (inside : Inside piece) (rest : List UInt8) :
    pieces (piece ++ comma :: rest) = piece :: pieces rest := by
  rw [pieces, takeWhile_append_of_inside inside, List.takeWhile_cons_of_pos (by decide)]
  exact List.splitOn_append_cons_self_of_not_mem inside.1 _

private theorem inside_concat (inside : Inside piece) {byte : UInt8}
    (noComma : byte ≠ comma)
    (noReturn : byte ≠ carriageReturn) : Inside (piece ++ [byte]) := by
  simp [Inside, inside.1, inside.2, Ne.symm noComma, Ne.symm noReturn]

private theorem exists_head_pieces (inside : Inside piece) (rest : List UInt8) :
    ∃ more behind, pieces (piece ++ rest) = (piece ++ more) :: behind := by
  induction rest generalizing piece with
  | nil => exact ⟨[], [], by rw [List.append_nil, pieces_of_inside inside]⟩
  | cons byte rest induction =>
      by_cases returns : byte = carriageReturn
      · exact ⟨[], [], by rw [returns, pieces_carriageReturn inside, List.append_nil]⟩
      by_cases separates : byte = comma
      · exact ⟨[], pieces rest, by rw [separates, pieces_comma inside, List.append_nil]⟩
      rcases induction (inside_concat inside separates returns) with ⟨more, behind, split⟩
      refine ⟨byte :: more, behind, ?_⟩
      simpa using split

end Ends

/-! ## Room for a character -/

private theorem width_append (front back : List Char) :
    width (front ++ back) = width front + width back := by
  induction front with
  | nil => simp [width]
  | cons character rest induction => simp [width, induction, Nat.add_assoc]

private theorem utf8Size_ofNat (byte : UInt8) :
    (Char.ofNat byte.toNat).utf8Size = if 0x80 ≤ byte then 2 else 1 := by
  have each : ∀ code : Fin 256,
      (Char.ofNat code).utf8Size = if 0x80 ≤ code.val then 2 else 1 := by decide +kernel
  exact each ⟨byte.toNat, byte.toNat_lt⟩

theorem width_eq_places (piece : List UInt8) :
    width (piece.map fun byte => Char.ofNat byte.toNat) = places piece := by
  induction piece with
  | nil => rfl
  | cons byte rest induction =>
      rw [List.map_cons, width, induction, utf8Size_ofNat, places, places,
        List.length_cons, List.countP_cons]
      simp only [decide_eq_true_eq]
      split <;> omega

private theorem places_append (front back : List UInt8) :
    places (front ++ back) = places front + places back := by
  simp only [places, List.length_append, List.countP_append]
  omega

private theorem Field.push?_of_not_isOversized {field : Field}
    (narrow : field.isOversized = false)
    (byte : UInt8) : ∃ longer, field.push? (Char.ofNat byte.toNat) = some longer ∧
      longer.characters = field.characters ++ [Char.ofNat byte.toNat] := by
  have fits : width (field.characters ++ [Char.ofNat byte.toNat]) ≤ maxFieldSize := by
    have narrow := of_decide_eq_false narrow
    rw [width_append, width, width, utf8Size_ofNat]
    unfold maxFieldSize at narrow ⊢
    split <;> omega
  exact ⟨⟨_, fits⟩, dif_pos fits, rfl⟩

private theorem Field.push?_ne_none {field : Field} (narrow : field.isOversized = false)
    (byte : UInt8) :
    field.push? (Char.ofNat byte.toNat) ≠ none := by
  rcases field.push?_of_not_isOversized narrow byte with ⟨longer, pushed, -⟩
  rw [pushed]
  exact Option.some_ne_none longer

private theorem goesOn_iff {field : Field} {byte : UInt8} :
    ¬(field.isOversized || byte == carriageReturn) = true ↔
      field.isOversized = false ∧ byte ≠ carriageReturn := by
  simp only [Bool.or_eq_true, beq_iff_eq, not_or, Bool.not_eq_true, ne_eq]

/-- Fields as `split` reads them, except that a character without room makes the reading
fail. -/
def splitStrictly : (room : Nat) → (field : Field) → List UInt8 → Option (List Field)
  | 0, _, _ => some []
  | _ + 1, _, [] => some []
  | room + 1, field, byte :: rest =>
      if field.isOversized || byte == carriageReturn then some []
      else if byte = comma then (splitStrictly room .empty rest).map (field :: ·)
      else
        match field.push? (Char.ofNat byte.toNat) with
        | some longer => splitStrictly (room + 1) longer rest
        | none => none

private theorem splitStrictly_eq (room : Nat) (field : Field) (bytes : List UInt8) :
    splitStrictly room field bytes = some (split room field bytes) := by
  fun_induction split room field bytes with
  | case1 => rw [splitStrictly]
  | case2 => rfl
  | case3 room field byte rest ends => rw [splitStrictly, if_pos ends]
  | case4 room field rest ends induction =>
      rw [splitStrictly, if_neg ends, if_pos rfl, induction, Option.map_some]
  | case5 room field byte rest ends separates longer pushed induction =>
      rw [splitStrictly, if_neg ends, if_neg separates, pushed]
      exact induction
  | case6 room field byte rest ends separates full =>
      exact absurd full (Field.push?_ne_none (goesOn_iff.mp ends).1 byte)

/-! ## The pieces that are kept -/

/-- The first pieces of those that a comma ends, up to one that is too wide. -/
def firstNarrow (room : Nat) (all : List (List UInt8)) : List (List UInt8) :=
  (all.dropLast.take room).takeWhile (places · ≤ maxPlaces)

private theorem firstNarrow_singleton (room : Nat) (piece : List UInt8) :
    firstNarrow room [piece] = [] := by
  simp [firstNarrow]

private theorem firstNarrow_cons (room : Nat) {piece : List UInt8}
    {behind : List (List UInt8)}
    (follows : behind ≠ []) : firstNarrow (room + 1) (piece :: behind) =
      if places piece ≤ maxPlaces then piece :: firstNarrow room behind else [] := by
  rw [firstNarrow, List.dropLast_cons_of_ne_nil follows, List.take_succ_cons,
    List.takeWhile_cons]
  simp only [decide_eq_true_eq]
  rfl

private theorem firstNarrow_of_wide (room : Nat) {piece : List UInt8}
    (behind : List (List UInt8))
    (wide : maxPlaces < places piece) : firstNarrow room (piece :: behind) = [] := by
  cases room with
  | zero => rfl
  | succ room =>
      by_cases follows : behind = []
      · rw [follows, firstNarrow_singleton]
      · rw [firstNarrow_cons room follows, if_neg (Nat.not_le_of_lt wide)]

/-- Reading goes through the pieces, with `piece` read of the present one. -/
private theorem split_eq_firstNarrow (room : Nat) (field : Field) (bytes : List UInt8) :
    ∀ piece, Inside piece →
      field.characters = piece.map (fun byte => Char.ofNat byte.toNat) →
      (split room field bytes).map Field.text =
        (firstNarrow room (pieces (piece ++ bytes))).map Text.Latin.decode := by
  fun_induction split room field bytes with
  | case1 => intro piece _ _; simp [firstNarrow]
  | case2 =>
      intro piece inside _
      rw [List.append_nil, pieces_of_inside inside, firstNarrow_singleton]
      rfl
  | case3 room field byte rest ends =>
      intro piece inside reads
      rw [Bool.or_eq_true, beq_iff_eq] at ends
      rcases ends with oversized | returns
      · have wide : maxPlaces < places piece := by
          rw [← width_eq_places, ← reads]
          exact of_decide_eq_true oversized
        rcases exists_head_pieces inside (byte :: rest) with ⟨more, behind, split⟩
        rw [split, firstNarrow_of_wide _ _ (by rw [places_append]; omega)]
        rfl
      · rw [returns, pieces_carriageReturn inside, firstNarrow_singleton]
        rfl
  | case4 room field rest ends induction =>
      intro piece inside reads
      have narrow : places piece ≤ maxPlaces := by
        rw [← width_eq_places, ← reads]
        exact Nat.le_of_lt_succ
          (Nat.lt_of_not_le (of_decide_eq_false (goesOn_iff.mp ends).1))
      have later := induction [] ⟨List.not_mem_nil, List.not_mem_nil⟩ rfl
      rw [pieces_comma inside, firstNarrow_cons room (pieces_ne_nil rest), if_pos narrow,
        List.map_cons, List.map_cons, later, Field.text, reads]
      rfl
  | case5 room field byte rest ends separates longer pushed induction =>
      intro piece inside reads
      obtain ⟨narrow, goesOn⟩ := goesOn_iff.mp ends
      rcases field.push?_of_not_isOversized narrow byte with ⟨other, same, characters⟩
      obtain rfl : longer = other := by simpa [pushed] using same
      have later := induction (piece ++ [byte]) (inside_concat inside separates goesOn)
        (by rw [characters, reads, List.map_append]; rfl)
      rw [later, List.append_assoc]
      rfl
  | case6 room field byte rest ends separates full =>
      exact absurd full (Field.push?_ne_none (goesOn_iff.mp ends).1 byte)

private theorem map_text_fields (bytes : List UInt8) :
    (Fields.ofBytes bytes).fields.map Field.text =
    (firstNarrow maxFields (pieces bytes)).map Text.Latin.decode :=
  split_eq_firstNarrow maxFields .empty bytes [] ⟨List.not_mem_nil, List.not_mem_nil⟩ rfl

private theorem getElem?_takeWhile {α : Type} (keeps : α → Bool) (items : List α)
    (index : Nat) :
    (items.takeWhile keeps)[index]? =
      if (items.take (index + 1)).all keeps then items[index]? else none := by
  induction items generalizing index with
  | nil => simp
  | cons item rest induction =>
      rw [List.takeWhile_cons, List.take_succ_cons]
      by_cases first : keeps item = true
      · cases index with
        | zero => simp [first]
        | succ index => simp [first, induction]
      · simp [first]

private theorem getElem?_firstNarrow (bytes : List UInt8) (index : Nat) :
    (firstNarrow maxFields (pieces bytes))[index]? =
      if Kept bytes index then (pieces bytes)[index]? else none := by
  rw [firstNarrow, getElem?_takeWhile]
  by_cases among : index + 1 < (pieces bytes).length ∧ index < maxFields
  · have front : ((pieces bytes).dropLast.take maxFields).take (index + 1) =
        (pieces bytes).take (index + 1) := by
      rw [List.take_take, Nat.min_eq_left among.2, List.dropLast_eq_take, List.take_take,
        Nat.min_eq_left (by omega)]
    have same : ((pieces bytes).dropLast.take maxFields)[index]? =
        (pieces bytes)[index]? := by
      rw [List.getElem?_take_of_lt among.2, List.getElem?_dropLast, if_pos (by omega)]
    rw [front, same]
    simp only [Kept, among, true_and, List.all_eq_true, decide_eq_true_eq]
  · have absent : ((pieces bytes).dropLast.take maxFields)[index]? = none := by
      rw [List.getElem?_eq_none_iff, List.length_take, List.length_dropLast]
      omega
    rw [absent, ite_self, if_neg fun kept => among ⟨kept.1, kept.2.1⟩]

theorem get_ofBytes (bytes : List UInt8) (index : Nat) :
    (Fields.ofBytes bytes).get index =
    if Kept bytes index then Text.Latin.decode ((pieces bytes).getD index [])
    else "" := by
  have texts : (Fields.ofBytes bytes).get index =
      ((Fields.ofBytes bytes).fields.map Field.text)[index]?.getD "" := by
    rw [Fields.get, List.getElem?_map]
    cases (Fields.ofBytes bytes).fields[index]? <;> rfl
  rw [texts, map_text_fields, List.getElem?_map, getElem?_firstNarrow]
  by_cases kept : Kept bytes index
  · have present : index < (pieces bytes).length := Nat.lt_of_succ_lt kept.1
    simp [kept, List.getD, List.getElem?_eq_getElem present]
  · simp [kept]

/-! ## Joining pieces -/

def joined (parts : List (List UInt8)) (behind : List UInt8) : List UInt8 :=
  parts.flatMap (· ++ [comma]) ++ carriageReturn :: behind

private theorem pieces_joined {parts : List (List UInt8)}
    (inside : ∀ piece ∈ parts, Inside piece)
    (behind : List UInt8) : pieces (joined parts behind) = parts ++ [[]] := by
  induction parts with
  | nil => exact pieces_carriageReturn ⟨List.not_mem_nil, List.not_mem_nil⟩ behind
  | cons piece rest induction =>
      rw [List.forall_mem_cons] at inside
      have split := pieces_comma inside.1 (joined rest behind)
      rw [induction inside.2] at split
      rw [List.cons_append, ← split]
      simp [joined]

private theorem firstNarrow_joined {parts : List (List UInt8)}
    (fits : parts.length ≤ maxFields)
    (narrow : ∀ piece ∈ parts, places piece ≤ maxPlaces) :
    firstNarrow maxFields (parts ++ [[]]) = parts := by
  rw [firstNarrow, List.dropLast_concat, List.take_of_length_le fits,
    List.takeWhile_eq_self_iff]
  simpa using narrow

/-- The fields of a sentence are the pieces that it keeps, whole and in their places; no
character lacks room; and pieces that fit are read back from the sentence that joins
them. -/
theorem Fields.holdPieces (bytes : List UInt8) :
    (∀ index, (Fields.ofBytes bytes).get index =
        if Kept bytes index then Text.Latin.decode ((pieces bytes).getD index [])
        else "") ∧
      splitStrictly maxFields .empty bytes = some (Fields.ofBytes bytes).fields ∧
      ∀ parts behind, bytes = joined parts behind → parts.length ≤ maxFields →
        (∀ piece ∈ parts, Inside piece ∧ places piece ≤ maxPlaces) →
          (Fields.ofBytes bytes).fields.map Field.text = parts.map Text.Latin.decode := by
  refine ⟨get_ofBytes bytes, splitStrictly_eq _ _ _, ?_⟩
  rintro parts behind rfl fits whole
  rw [map_text_fields, pieces_joined fun piece member => (whole piece member).1,
    firstNarrow_joined fits fun piece member => (whole piece member).2]

/-- High bytes that fill a field, and one byte more. -/
theorem holdPieces_of_highBytes :
    let full : List UInt8 := List.replicate 9 0xe9
    let parts : List (List UInt8) := [[dollar, 0x58], full, []]
    let overfull := joined [[dollar, 0x58], full ++ [0x41], full] []
    (∀ piece ∈ parts, Inside piece ∧ places piece ≤ maxPlaces) ∧
      (Fields.ofBytes (joined parts [comma, lineFeed])).fields.map Field.text =
        ["$X", "ééééééééé", ""] ∧
      (Fields.ofBytes overfull).get 0 = "$X" ∧ (Fields.ofBytes overfull).get 1 = "" ∧
      (Fields.ofBytes overfull).get 2 = "" := by
  intro full parts overfull
  have whole : ∀ piece ∈ parts, Inside piece ∧ places piece ≤ maxPlaces := by
    simp only [Inside]
    decide
  have stored := (Fields.holdPieces overfull).1
  refine ⟨whole, ?_, ?_, ?_, ?_⟩
  · exact (Fields.holdPieces (joined parts [comma, lineFeed])).2.2 parts _ rfl
      (by decide) whole
  · rw [stored, if_pos (by decide)]
    decide +kernel
  · rw [stored, if_neg (by decide)]
  · rw [stored, if_neg (by decide)]

end ClockDiscipline.Nmea
