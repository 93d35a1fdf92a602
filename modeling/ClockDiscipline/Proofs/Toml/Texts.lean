import ClockDiscipline.Toml.Printer
import Mathlib.Data.List.Infix

/-!
Written texts are read back. In double quotes every character has an escape; in single
quotes a text stands as it is, and is chosen only for what cannot end it. A text may hold
any characters.
-/

namespace ClockDiscipline.Toml

variable {character target : Char} {text rest : List Char}

/-! ## Runs -/

section Runs

variable {size : Nat}

/-- Where a run is broken off, no longer one begins. -/
private theorem not_replicate_prefix_of_broken {count : Nat} (other : character ≠ target)
    (short : count ≤ size) :
    ¬List.replicate (size + 1) target <+:
      List.replicate count target ++ character :: rest := by
  intro leads
  have same :=
    List.prefix_iff_getElem?.mp leads count (by rw [List.length_replicate]; omega)
  rw [List.getElem?_append_right (by simp), List.length_replicate, Nat.sub_self,
    List.getElem?_cons_zero, List.getElem_replicate] at same
  exact other (Option.some.inj same)

private theorem replicate_infix_iff_of_broken (other : character ≠ target) :
    ∀ {count : Nat}, count ≤ size →
    (List.replicate (size + 1) target <:+:
      List.replicate count target ++ character :: rest ↔
      List.replicate (size + 1) target <:+: rest) := by
  intro count
  induction count with
  | zero =>
      intro short
      rw [List.replicate_zero, List.nil_append, List.infix_cons_iff]
      exact or_iff_right (not_replicate_prefix_of_broken other short)
  | succ count induction =>
      intro short
      rw [← induction (by omega), List.replicate_succ (n := count), List.cons_append,
        List.infix_cons_iff, ← List.cons_append, ← List.replicate_succ]
      exact or_iff_right (not_replicate_prefix_of_broken other short)

-- The run that is being counted stands in front of the text.
private theorem longestRun_le_iff_of_run : ∀ (text : List Char) (current longest : Nat),
    current ≤ longest → (longestRun target current longest text ≤ size ↔ longest ≤ size ∧
      ¬List.replicate (size + 1) target <:+: List.replicate current target ++ text) := by
  intro text
  induction text with
  | nil =>
      intro current longest within
      rw [longestRun, List.append_nil, List.infix_replicate_iff, List.length_replicate]
      refine (and_iff_left_of_imp fun bound long => ?_).symm
      omega
  | cons character rest induction =>
      intro current longest within
      rw [longestRun]
      split
      case isTrue same =>
        subst same
        rw [induction _ _ (Nat.le_max_right _ _), List.append_cons,
          ← List.replicate_succ', Nat.max_le, and_assoc]
        refine and_congr_right fun _ => and_iff_right_of_imp fun none => ?_
        by_contra long
        refine none (List.IsInfix.trans ?_ (List.prefix_append _ _).isInfix)
        rw [List.infix_replicate_iff, List.length_replicate]
        exact ⟨by omega, rfl⟩
      case isFalse other =>
        rw [induction _ _ (Nat.zero_le _), List.replicate_zero, List.nil_append]
        exact and_congr_right fun bound =>
          not_congr (replicate_infix_iff_of_broken other (by omega)).symm

/-- The longest run is no longer than `size` if no longer one stands in the text. -/
theorem longestRun_le_iff :
    longestRun target 0 0 text ≤ size ↔ ¬List.replicate (size + 1) target <:+: text := by
  rw [longestRun_le_iff_of_run text 0 0 (Nat.le_refl 0)]
  exact and_iff_right (Nat.zero_le size)

private theorem longestRun_eq_zero_iff :
    longestRun target 0 0 text = 0 ↔ target ∉ text := by
  rw [← Nat.le_zero, longestRun_le_iff]
  exact not_congr (List.singleton_infix_iff target text)

end Runs

/-! ## Escapes -/

/-- What stands for a character between double quotes, unless it is a quote that stands
free. -/
def escape (isBlock : Bool) (character : Char) : List Char :=
  match character with
  | '"' => ['\\', '"']
  | '\\' => ['\\', '\\']
  | '\x08' => ['\\', 'b']
  | '\t' => ['\\', 't']
  | '\n' => if isBlock then ['\n'] else ['\\', 'n']
  | '\x0c' => ['\\', 'f']
  | '\r' => ['\\', 'r']
  | _ =>
      if needsCode character then '\\' :: 'u' :: codeDigits character.toNat
      else [character]

section Escapes

variable {isBlock : Bool} {free run : Nat}

private theorem escapeAll_of_free (isFree : run < free) :
    escapeAll isBlock free run ('"' :: rest) =
      '"' :: escapeAll isBlock free (run + 1) rest := by
  rw [escapeAll, if_pos isFree]

private theorem escapeAll_of_bound (bound : character = '"' → free ≤ run) :
    escapeAll isBlock free run (character :: rest) =
      escape isBlock character ++ escapeAll isBlock free 0 rest := by
  unfold escape
  split
  · rw [escapeAll, if_neg (Nat.not_lt.mpr (bound rfl))]
    rfl
  · rfl
  · rfl
  · rfl
  · rw [escapeAll]
    split <;> rfl
  · rfl
  · rfl
  case h_8 quote backslash backspace tab newline feed carriage =>
    rw [escapeAll.eq_9 _ _ _ _ _ quote backslash backspace tab newline feed carriage]
    split <;> rfl

private theorem read_codeDigits (coded : needsCode character = true) :
    ∃ a b c d, codeDigits character.toNat = [a, b, c, d] ∧
      character? [a, b, c, d] = some character := by
  have all : ∀ code < 0x80, needsCode (Char.ofNat code) = true →
      (codeDigits code).length = 4 ∧
        character? (codeDigits code) = some (Char.ofNat code) := by
    decide
  have small : character.toNat < 0x80 := by
    simp only [needsCode, Bool.or_eq_true, Bool.and_eq_true, decide_eq_true_eq] at coded
    rcases coded with ⟨⟨low, -⟩, -⟩ | rfl
    · omega
    · decide
  rcases all character.toNat small (by rwa [Char.ofNat_toNat]) with ⟨four, read⟩
  match digits : codeDigits character.toNat, four with
  | [a, b, c, d], _ =>
      rw [digits, Char.ofNat_toNat] at read
      exact ⟨a, b, c, d, rfl, read⟩

private theorem exists_escape_eq_cons (isBlock : Bool) (character : Char) :
    ∃ first others,
      escape isBlock character = first :: others ∧ first ≠ '"' ∧ first ≠ '\r' ∧
      (first = '\n' → character = '\n') := by
  unfold escape
  split
  · exact ⟨_, _, rfl, by decide⟩
  · exact ⟨_, _, rfl, by decide⟩
  · exact ⟨_, _, rfl, by decide⟩
  · exact ⟨_, _, rfl, by decide⟩
  · split
    · exact ⟨_, _, rfl, by decide⟩
    · exact ⟨_, _, rfl, by decide⟩
  · exact ⟨_, _, rfl, by decide⟩
  · exact ⟨_, _, rfl, by decide⟩
  case h_8 quote backslash backspace tab newline feed carriage =>
    split
    · exact ⟨_, _, rfl, by decide, by decide, fun same => by cases same⟩
    · exact ⟨_, _, rfl, quote, carriage, id⟩

end Escapes

/-! ## Characters that stand for themselves -/

private theorem isPlain_of_not_needsCode (uncoded : needsCode character = false)
    (other : character ≠ '\n') : isPlain character = true := by
  simp only [needsCode, isPlain, Bool.or_eq_false_iff, Bool.and_eq_false_iff,
    Bool.or_eq_true, Bool.and_eq_true, decide_eq_true_eq, decide_eq_false_iff_not] at *
  grind

theorem ne_of_satisfies {test : Char → Bool} {other : Char}
    (inside : test character = true)
    (outside : test other = false) : character ≠ other := by
  rintro rfl
  rw [inside] at outside
  cases outside

section Plain

variable (plain : isPlain character = true)

include plain

private theorem basicBody_of_plain (quote : character ≠ '"')
    (backslash : character ≠ '\\') :
    basicBody (character :: rest) = prepend character (basicBody rest) := by
  rw [basicBody] <;> grind

private theorem literalBody_of_plain (quote : character ≠ '\'') :
    literalBody (character :: rest) = prepend character (literalBody rest) := by
  rw [literalBody] <;> grind

private theorem basicBlock_of_plain (backslash : character ≠ '\\')
    (stays : ∀ more, character = '"' → rest ≠ '"' :: '"' :: more) :
    basicBlock false (character :: rest) = prepend character (basicBlock false rest) := by
  have newline : character ≠ '\n' := ne_of_satisfies plain (by decide)
  have carriage : character ≠ '\r' := ne_of_satisfies plain (by decide)
  rw [basicBlock] <;> grind

private theorem literalBlock_of_plain
    (stays : ∀ more, character = '\'' → rest ≠ '\'' :: '\'' :: more) :
    literalBlock (character :: rest) = prepend character (literalBlock rest) := by
  have newline : character ≠ '\n' := ne_of_satisfies plain (by decide)
  have carriage : character ≠ '\r' := ne_of_satisfies plain (by decide)
  rw [literalBlock] <;> grind

end Plain

/-! ## Readings -/

private theorem basicBody_escape : basicBody (escape false character ++ rest) =
    prepend character (basicBody rest) := by
  unfold escape
  split
  · rfl
  · rfl
  · rfl
  · rfl
  · rfl
  · rfl
  · rfl
  case h_8 quote backslash _ _ newline _ _ =>
    split
    case isTrue coded =>
      rcases read_codeDigits coded with ⟨a, b, c, d, digits, read⟩
      rw [digits]
      simp [basicBody, read]
    case isFalse uncoded =>
      have plain := isPlain_of_not_needsCode (Bool.not_eq_true _ ▸ uncoded) newline
      exact basicBody_of_plain plain quote backslash

private theorem basicBlock_escape : basicBlock false (escape true character ++ rest) =
    prepend character (basicBlock false rest) := by
  unfold escape
  split
  · rfl
  · rfl
  · rfl
  · rfl
  · rfl
  · rfl
  · rfl
  case h_8 quote backslash _ _ newline _ _ =>
    split
    case isTrue coded =>
      rcases read_codeDigits coded with ⟨a, b, c, d, digits, read⟩
      rw [digits]
      simp [basicBlock, read]
    case isFalse uncoded =>
      have plain := isPlain_of_not_needsCode (Bool.not_eq_true _ ▸ uncoded) newline
      exact basicBlock_of_plain plain backslash fun _ same => absurd same quote

private theorem basicBody_escapeAll (text : List Char) : ∀ run,
    basicBody (escapeAll false 0 run text ++ '"' :: rest) = some (text, rest) := by
  induction text with
  | nil => exact fun _ => rfl
  | cons character text induction =>
      intro run
      rw [escapeAll_of_bound fun _ => Nat.zero_le run, List.append_assoc,
        basicBody_escape, induction]
      rfl

private theorem literalBody_append (plain : ∀ character ∈ text, isPlain character = true)
    (quote : '\'' ∉ text) : literalBody (text ++ '\'' :: rest) = some (text, rest) := by
  induction text with
  | nil => rfl
  | cons character text induction =>
      rw [List.forall_mem_cons] at plain
      rw [List.mem_cons, not_or] at quote
      rw [List.cons_append, literalBody_of_plain plain.1 (Ne.symm quote.1),
        induction plain.2 quote.2]
      rfl

private theorem escapeAll_ne_quote {isBlock : Bool} {free run : Nat}
    {behind more : List Char} (bound : character = '"' → free ≤ run) :
    escapeAll isBlock free run (character :: text) ++ behind ≠ '"' :: more := by
  rcases exists_escape_eq_cons isBlock character with ⟨first, others, escaped, quote, -⟩
  rw [escapeAll_of_bound bound, escaped]
  exact fun same => quote (List.cons.inj same).1

/-- Of the quotes that stand free, two more in front of others end the text. -/
private theorem ends_of_free {run : Nat} {behind more : List Char}
    (two : escapeAll true 2 (run + 1) text ++ behind = '"' :: '"' :: more) :
    text = [] ∨ text = ['"'] ∧ run = 0 := by
  cases text with
  | nil => exact .inl rfl
  | cons character text =>
      refine .inr ?_
      by_cases isFree : character = '"' ∧ run + 1 < 2
      · rcases isFree with ⟨rfl, isFree⟩
        rw [escapeAll_of_free isFree, List.cons_append, List.cons.injEq] at two
        cases text with
        | nil => exact ⟨rfl, by omega⟩
        | cons second text => exact absurd two.2 (escapeAll_ne_quote fun _ => by omega)
      · exact absurd two (escapeAll_ne_quote (by grind))

/-- Quotes at the end of a text are told from the three behind them. -/
private theorem basicBlock_escapeAll (text : List Char) : ∀ run,
    basicBlock false (escapeAll true 2 run text ++ '"' :: '"' :: '"' :: '\n' :: rest) =
      some (text, '\n' :: rest) := by
  induction text with
  | nil => exact fun _ => rfl
  | cons character text induction =>
      intro run
      -- A quote that stands free must not be taken for the first of the three behind the
      -- text. So the ends are told apart where no other character follows.
      by_cases isFree : character = '"' ∧ run < 2
      · rcases isFree with ⟨rfl, isFree⟩
        rw [escapeAll_of_free isFree]
        by_cases ends : text = [] ∨ text = ['"'] ∧ run = 0
        · rcases ends with rfl | ⟨rfl, rfl⟩ <;> rfl
        · rw [List.cons_append, basicBlock_of_plain (by decide) (by decide)
            (fun _ _ two => ends (ends_of_free two)), induction]
          rfl
      · rw [escapeAll_of_bound (by grind), List.append_assoc, basicBlock_escape,
          induction]
        rfl

private theorem literalBlock_append
    (uncoded : ∀ character ∈ text, needsCode character = false)
    (short : ¬List.replicate 3 '\'' <:+: text) :
    literalBlock (text ++ '\'' :: '\'' :: '\'' :: '\n' :: rest) =
      some (text, '\n' :: rest) := by
  induction text with
  | nil => rfl
  | cons character text induction =>
      rw [List.forall_mem_cons] at uncoded
      rw [List.infix_cons_iff, not_or] at short
      by_cases newline : character = '\n'
      · subst newline
        rw [List.cons_append, literalBlock, induction uncoded.2 short.2]
        rfl
      · have plain := isPlain_of_not_needsCode uncoded.1 newline
        by_cases ends : character = '\'' ∧ (text = [] ∨ text = ['\''])
        · rcases ends with ⟨rfl, rfl | rfl⟩ <;> rfl
        · rw [List.cons_append, literalBlock_of_plain plain, induction uncoded.2 short.2]
          · rfl
          · rintro more rfl two
            refine ends ⟨rfl, ?_⟩
            match text, two with
            | [], _ => exact .inl rfl
            | [_], two => exact .inr (by rw [(List.cons.inj two).1])
            | first :: second :: text, two =>
                cases (List.cons.inj two).1
                cases (List.cons.inj (List.cons.inj two).2).1
                exact absurd ⟨text, rfl⟩ short.1

/-! ## Forms -/

private theorem literal_of_form (chosen : form text = .literal) :
    (∀ character ∈ text, isPlain character = true) ∧ '\'' ∉ text ∧ text ≠ [] := by
  dsimp only [form] at chosen
  split_ifs at chosen with notBasic literal
  simp only [Bool.and_eq_true, Bool.not_eq_true', decide_eq_true_eq,
    longestRun_eq_zero_iff, List.contains_eq_mem, decide_eq_false_iff_not,
    List.any_eq_false, Bool.not_eq_true] at literal
  rcases literal with ⟨⟨uncoded, quote⟩, newline⟩
  refine ⟨fun character member => ?_, quote, ?_⟩
  · refine isPlain_of_not_needsCode (uncoded character member) ?_
    rintro rfl
    exact newline member
  · rintro rfl
    exact notBasic rfl

private theorem literalBlock_of_form (chosen : form text = .literalBlock) :
    (∀ character ∈ text, needsCode character = false) ∧
      ¬List.replicate 3 '\'' <:+: text := by
  dsimp only [form] at chosen
  split_ifs at chosen with _ _ _ literal
  simp only [Bool.and_eq_true, Bool.not_eq_true', decide_eq_true_eq, longestRun_le_iff,
    List.any_eq_false, Bool.not_eq_true] at literal
  exact literal

private theorem string?_of_basic (opened : ∀ more, rest ≠ '"' :: '"' :: more) :
    string? ('"' :: rest) = basicBody rest := by
  rw [string?]
  exact opened

private theorem string?_of_literal (opened : ∀ more, rest ≠ '\'' :: '\'' :: more) :
    string? ('\'' :: rest) = literalBody rest := by
  rw [string?]
  exact opened

private theorem dropFirstNewline_of_ne (newline : character ≠ '\n')
    (carriage : character ≠ '\r') :
    dropFirstNewline (character :: rest) = character :: rest := by
  unfold dropFirstNewline newline?
  grind

private theorem dropFirstNewline_escapeAll (newline : '\n' ∉ text) :
    dropFirstNewline (escapeAll true 2 0 text ++ '"' :: rest) =
      escapeAll true 2 0 text ++ '"' :: rest := by
  cases text with
  | nil => rfl
  | cons character text =>
      rw [List.mem_cons, not_or] at newline
      by_cases quote : character = '"'
      · subst quote
        rfl
      · rcases exists_escape_eq_cons true character with
          ⟨first, others, escaped, -, carriage, kept⟩
        rw [escapeAll_of_bound (absurd · quote), escaped]
        exact dropFirstNewline_of_ne (fun same => newline.1 (kept same).symm) carriage

private theorem dropFirstNewline_append
    (uncoded : ∀ character ∈ text, needsCode character = false) (newline : '\n' ∉ text) :
    dropFirstNewline (text ++ '\'' :: rest) = text ++ '\'' :: rest := by
  cases text with
  | nil => rfl
  | cons character text =>
      rw [List.forall_mem_cons] at uncoded
      rw [List.mem_cons, not_or] at newline
      refine dropFirstNewline_of_ne (Ne.symm newline.1) ?_
      rintro rfl
      cases uncoded.1

/-- A written text is read back. -/
theorem string?_stringText (text rest : List Char) :
    string? (stringText text ++ '\n' :: rest) = some (text, '\n' :: rest) := by
  unfold stringText
  cases chosen : form text with
  | basic =>
      simp only [List.append_assoc, List.cons_append, List.nil_append]
      rw [string?_of_basic ?_, basicBody_escapeAll]
      intro more
      cases text with
      | nil => exact fun same => by cases (List.cons.inj (List.cons.inj same).2).1
      | cons character text => exact escapeAll_ne_quote fun _ => Nat.le_refl 0
  | literal =>
      rcases literal_of_form chosen with ⟨plain, quote, nonempty⟩
      simp only [List.append_assoc, List.cons_append, List.nil_append]
      rw [string?_of_literal ?_, literalBody_append plain quote]
      intro more same
      cases text with
      | nil => exact nonempty rfl
      | cons character text =>
          cases (List.cons.inj same).1
          exact quote List.mem_cons_self
  | basicBlock =>
      simp only [List.append_assoc, List.cons_append, List.nil_append]
      rw [string?]
      split
      case isTrue => exact basicBlock_escapeAll text 0
      case isFalse none =>
        rw [List.nil_append, dropFirstNewline_escapeAll (by simpa using none)]
        exact basicBlock_escapeAll text 0
  | literalBlock =>
      rcases literalBlock_of_form chosen with ⟨uncoded, short⟩
      simp only [List.append_assoc, List.cons_append, List.nil_append]
      rw [string?]
      split
      case isTrue => exact literalBlock_append uncoded short
      case isFalse none =>
        rw [List.nil_append, dropFirstNewline_append uncoded (by simpa using none)]
        exact literalBlock_append uncoded short

end ClockDiscipline.Toml
