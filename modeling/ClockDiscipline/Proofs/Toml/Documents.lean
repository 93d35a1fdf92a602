import ClockDiscipline.Proofs.Toml.Scalars

/-!
Written documents are read back. Each line does to a document what it was written for, so
sections and settings may stand in any order as long as no name comes twice.
-/

namespace ClockDiscipline.Toml

variable {rest : List Char}

/-! ## Keys -/

def IsBare (name : String) : Prop :=
  name.toList ≠ [] ∧ ∀ character ∈ name.toList, isKeyCharacter character = true

-- The characters of the name are tried, not all that there are.
instance (name : String) : Decidable (IsBare name) :=
  @instDecidableAnd _ _ inferInstance (List.decidableBAll _ name.toList)

section Bare

variable {name : String} (bare : IsBare name)

include bare

private theorem IsBare.opens :
    ∃ first more, name.toList = first :: more ∧ isKeyCharacter first = true := by
  rcases List.exists_cons_of_ne_nil bare.1 with ⟨first, more, spelled⟩
  exact ⟨first, more, spelled, bare.2 first (spelled ▸ List.mem_cons_self)⟩

private theorem skipBlanks_of_bare :
    skipBlanks (name.toList ++ rest) = name.toList ++ rest := by
  rcases bare.opens with ⟨first, more, spelled, inside⟩
  have blank : first ≠ ' ' := ne_of_satisfies inside (by decide)
  have tab : first ≠ '\t' := ne_of_satisfies inside (by decide)
  rw [spelled]
  exact List.dropWhile_cons_of_neg (by simp [isBlank, blank, tab])

private theorem simpleKey?_of_bare {delimiter : Char}
    (ends : isKeyCharacter delimiter = false) :
    simpleKey? (name.toList ++ delimiter :: rest) = some (name, delimiter :: rest) := by
  rcases bare.opens with ⟨first, more, spelled, inside⟩
  rw [simpleKey?]
  · rw [List.takeWhile_append_of_pos bare.2,
      List.takeWhile_cons_of_neg (by rw [ends]; decide),
      List.dropWhile_append_of_pos bare.2,
      List.dropWhile_cons_of_neg (by rw [ends]; decide), List.append_nil]
    simp [bare.1]
  all_goals
    rw [spelled]
    exact fun _ => cons_ne_of_satisfies inside (by decide)

private theorem key?_of_bare {delimiter mark : Char} {more : List Char}
    (ends : isKeyCharacter delimiter = false)
    (behind : skipBlanks (delimiter :: rest) = mark :: more) (single : mark ≠ '.') :
    key? (name.toList ++ delimiter :: rest) = some ([], name, mark :: more) := by
  have alone : dottedKeys? (depthLimit - 1) (name.toList ++ delimiter :: rest) =
      some ([name], mark :: more) := by
    change dottedKeys? (78 + 1) _ = _
    rw [dottedKeys?, skipBlanks_of_bare bare, simpleKey?_of_bare bare ends,
      Option.bind_eq_bind, Option.bind_some]
    dsimp only
    rw [behind]
    split
    case h_1 same => exact absurd (List.cons.inj same).1 single
    case h_2 => rfl
  rw [key?, alone]
  rfl

end Bare

/-! ## Lines -/

/-- A line that can be written. -/
inductive Line where
  | blank
  | header (name : String)
  | setting (key : String) (scalar : Scalar)

namespace Line

def written : Line → List Char
  | blank => ['\n']
  | header name => headerLine name
  | setting key scalar => keyLine key scalar.written

def Fits : Line → Prop
  | blank => True
  | header name => IsBare name
  | setting key scalar => IsBare key ∧ scalar.Fits

def define? (reading : Reading) : Line → Option Reading
  | blank => some reading
  | header name => (reading.document.openTable [] name).map (⟨·, [name]⟩)
  | setting key scalar =>
      (reading.document.insert reading.current [] key scalar.value).map
        (⟨·, reading.current⟩)

section Written

variable {reading : Reading} {name : String} {scalar : Scalar}

private theorem line?_of_header (bare : IsBare name) :
    line? reading ('[' :: (name.toList ++ rest)) =
      headerLine? reading (name.toList ++ rest) := by
  rcases bare.opens with ⟨first, more, spelled, inside⟩
  have bracket : first ≠ '[' := ne_of_satisfies inside (by decide)
  have unblank : skipBlanks ('[' :: (name.toList ++ rest)) =
      '[' :: (name.toList ++ rest) := rfl
  rw [line?, unblank, spelled]
  -- Two brackets would open an array of tables.
  split
  case h_1 same => exact absurd (List.cons.inj (List.cons.inj same).2).1 bracket
  case h_2 same => rw [(List.cons.inj same).2]
  case h_3 other => exact absurd rfl (other _)

private theorem lineEnd?_of_bare (bare : IsBare name) :
    lineEnd? (name.toList ++ rest) = none := by
  rw [lineEnd?, skipBlanks_of_bare bare]
  rcases bare.opens with ⟨first, more, spelled, inside⟩
  have comment : first ≠ '#' := ne_of_satisfies inside (by decide)
  have newline : first ≠ '\n' := ne_of_satisfies inside (by decide)
  have carriage : first ≠ '\r' := ne_of_satisfies inside (by decide)
  rw [spelled]
  simp [skipComment, newline?, comment, newline, carriage]

private theorem line?_of_setting (bare : IsBare name) :
    line? reading (name.toList ++ rest) = keyLine? reading (name.toList ++ rest) := by
  have noEnd : lineEnd? (name.toList ++ rest) = none := lineEnd?_of_bare bare
  rw [line?, skipBlanks_of_bare bare]
  rcases bare.opens with ⟨first, more, spelled, inside⟩
  have bracket : first ≠ '[' := ne_of_satisfies inside (by decide)
  split
  case h_1 same =>
    rw [spelled] at same
    exact absurd (List.cons.inj same).1 bracket
  case h_2 same =>
    rw [spelled] at same
    exact absurd (List.cons.inj same).1 bracket
  case h_3 => rw [noEnd]

private theorem headerLine?_written (bare : IsBare name) :
    headerLine? reading (name.toList ++ ']' :: '\n' :: rest) =
      ((header name).define? reading).map (·, rest) := by
  have behind : skipBlanks (']' :: '\n' :: rest) = ']' :: '\n' :: rest := rfl
  rw [headerLine?, key?_of_bare bare (by decide) behind (by decide), Option.bind_eq_bind,
    Option.bind_some]
  have ended : lineEnd? ('\n' :: rest) = some rest := rfl
  simp only [Option.bind_eq_bind, Option.bind_some, ended, define?]
  cases reading.document.openTable [] name <;> rfl

private theorem keyLine?_written (bare : IsBare name) (fits : scalar.Fits) :
    keyLine? reading
      (name.toList ++ ' ' :: '=' :: ' ' :: (scalar.written ++ '\n' :: rest)) =
      ((setting name scalar).define? reading).map (·, rest) := by
  have behind : skipBlanks (' ' :: '=' :: ' ' :: (scalar.written ++ '\n' :: rest)) =
      '=' :: ' ' :: (scalar.written ++ '\n' :: rest) := rfl
  rw [keyLine?, key?_of_bare bare (by decide) behind (by decide), Option.bind_eq_bind,
    Option.bind_some]
  have spaced : skipBlanks (' ' :: (scalar.written ++ '\n' :: rest)) =
      scalar.written ++ '\n' :: rest := scalar.skipBlanks_written
  have ended : lineEnd? ('\n' :: rest) = some rest := rfl
  simp only [Option.bind_eq_bind, Option.bind_some, spaced, Scalar.value?_written fits,
    ended, define?]
  cases reading.document.insert reading.current [] name scalar.value <;> rfl

end Written

private theorem line?_written {line : Line} (fits : line.Fits) (reading : Reading) :
    line? reading (line.written ++ rest) = (line.define? reading).map (·, rest) := by
  cases line with
  | blank => rfl
  | header name =>
      simp only [written, headerLine, List.cons_append, List.append_assoc,
        List.nil_append]
      rw [line?_of_header fits, headerLine?_written fits]
  | setting key scalar =>
      simp only [written, keyLine, List.cons_append, List.append_assoc, List.nil_append]
      rw [line?_of_setting fits.1, keyLine?_written fits.1 fits.2]

private theorem written_ne_nil (line : Line) : line.written ≠ [] := by
  cases line with
  | blank => exact List.cons_ne_nil _ _
  | header name => exact List.cons_ne_nil _ _
  | setting key scalar => simp [written, keyLine]

private theorem lines?_written {lines : List Line} (fits : ∀ line ∈ lines, line.Fits) :
    ∀ (fuel : Nat) (reading : Reading), (lines.flatMap written).length ≤ fuel →
      lines? fuel reading (lines.flatMap written) = lines.foldlM define? reading := by
  induction lines with
  | nil =>
      intro fuel reading _
      cases fuel <;> rfl
  | cons line lines induction =>
      intro fuel reading enough
      rw [List.forall_mem_cons] at fits
      rw [List.flatMap_cons, List.length_append] at enough
      -- A line takes a character at least, so the fuel lasts to the end.
      have takes := List.length_pos_of_ne_nil line.written_ne_nil
      cases fuel with
      | zero => omega
      | succ fuel =>
          rw [List.flatMap_cons, lines?, line?_written fits.1, List.foldlM_cons]
          · cases line.define? reading with
            | none => rfl
            | some reading => exact induction fits.2 fuel reading (by omega)
          · simp [line.written_ne_nil]

private theorem dropByteOrderMark_written {lines : List Line}
    (fits : ∀ line ∈ lines, line.Fits) :
    dropByteOrderMark (lines.flatMap written) = lines.flatMap written := by
  cases lines with
  | nil => rfl
  | cons line lines =>
      rw [List.forall_mem_cons] at fits
      rw [List.flatMap_cons]
      cases line with
      | blank => rfl
      | header name => rfl
      | setting key scalar =>
          rcases IsBare.opens fits.1.1 with ⟨first, more, spelled, inside⟩
          rw [written, keyLine, spelled, dropByteOrderMark]
          exact fun _ => cons_ne_of_satisfies inside (by decide)

/-- A document of written lines defines what its lines define one after the other. -/
theorem parse?_written {lines : List Line} (fits : ∀ line ∈ lines, line.Fits) :
    parse? (String.ofList (lines.flatMap written)) =
      (lines.foldlM define? ⟨[], []⟩).map (·.document) := by
  rw [parse?, String.toList_ofList, dropByteOrderMark_written fits,
    lines?_written fits _ _ (Nat.le_refl _)]

end Line

/-! ## Sections -/

namespace Entries

variable {document entries : Entries} {heading key : String} {value : Value}

private theorem find?_eq_none_iff :
    entries.find? key = none ↔ key ∉ entries.map Prod.fst := by
  rw [find?, List.lookup_eq_none_iff, List.mem_map]
  grind

private theorem find?_append_of_absent (absent : document.find? heading = none) :
    (document ++ [(heading, value)]).find? heading = some value := by
  rw [find?] at absent
  rw [find?, List.lookup_append, absent, Option.none_or, List.lookup_cons_self]

private theorem replace_append_of_absent {new : Value}
    (absent : document.find? heading = none) :
    Entries.replace (document ++ [(heading, value)]) heading new =
      document ++ [(heading, new)] := by
  rw [find?_eq_none_iff] at absent
  have kept : Entries.replace document heading new = document := by
    refine (List.map_congr_left fun entry member => if_neg ?_).trans
      (List.map_id document)
    rintro rfl
    exact absent (List.mem_map_of_mem member)
  rw [replace, List.map_append, ← replace, kept, List.map_singleton, if_pos rfl]

private theorem openTable_of_absent (absent : document.find? heading = none) :
    document.openTable [] heading =
      some (document ++ [(heading, .table .header [])]) := by
  rw [openTable, modify]
  simp only [absent]

private theorem insert_of_absent (absent : document.find? heading = none)
    (fresh : entries.find? key = none) :
    Entries.insert (document ++ [(heading, .table .header entries)]) [heading]
      [] key value =
      some (document ++ [(heading, .table .header (entries ++ [(key, value)]))]) := by
  rw [insert, modify, find?_append_of_absent absent]
  simp only [admits, modify, add?, fresh]
  simp [replace_append_of_absent absent]

end Entries

/-- A section with its settings in order. -/
structure Block where
  heading : String
  settings : List (String × Scalar)

namespace Block

def lines (block : Block) : List Line :=
  .header block.heading :: block.settings.map fun (key, scalar) => .setting key scalar

def layout : List Block → List Line
  | [] => []
  | [block] => block.lines
  | block :: blocks => block.lines ++ .blank :: layout blocks

def text (blocks : List Block) : String :=
  String.ofList ((layout blocks).flatMap Line.written)

/-- The names can be written as they are, the values as well, and no key comes twice. -/
structure Fits (block : Block) : Prop where
  heading : IsBare block.heading
  settings : ∀ setting ∈ block.settings, IsBare setting.1 ∧ setting.2.Fits
  distinct : (block.settings.map Prod.fst).Nodup

instance (block : Block) : Decidable block.Fits :=
  decidable_of_iff (IsBare block.heading ∧
      (∀ setting ∈ block.settings, IsBare setting.1 ∧ setting.2.Fits) ∧
      (block.settings.map Prod.fst).Nodup)
    ⟨fun ⟨heading, settings, distinct⟩ => ⟨heading, settings, distinct⟩,
      fun fits => ⟨fits.heading, fits.settings, fits.distinct⟩⟩

def entries (block : Block) : Entries :=
  block.settings.map fun (key, scalar) => (key, scalar.value)

def document (blocks : List Block) : Entries :=
  blocks.map fun block => (block.heading, .table .header block.entries)

private theorem fits_lines {block : Block} (fits : block.Fits) :
    ∀ line ∈ block.lines, line.Fits := by
  rw [lines, List.forall_mem_cons, List.forall_mem_map]
  exact ⟨fits.heading, fits.settings⟩

private theorem fits_layout {blocks : List Block} (fits : ∀ block ∈ blocks, block.Fits) :
    ∀ line ∈ layout blocks, line.Fits := by
  induction blocks using layout.induct with
  | case1 => simp [layout]
  | case2 block =>
      exact fits_lines (fits block List.mem_cons_self)
  | case3 block blocks nonempty induction =>
      rw [List.forall_mem_cons] at fits
      rw [layout, List.forall_mem_append, List.forall_mem_cons]
      · exact ⟨fits_lines fits.1, trivial, induction fits.2⟩
      · exact nonempty

section Define

variable {document : Entries} {heading : String} {current : List String}

/-- Settings with keys of their own are gathered in the section that was opened last. -/
private theorem define_settings (settings : List (String × Scalar))
    (absent : document.find? heading = none) : ∀ entries : Entries,
      (entries.map Prod.fst ++ settings.map Prod.fst).Nodup →
        (settings.map fun (key, scalar) => Line.setting key scalar).foldlM Line.define?
            ⟨document ++ [(heading, .table .header entries)], [heading]⟩ =
          some ⟨document ++ [(heading, .table .header (entries ++
            settings.map fun (key, scalar) => (key, scalar.value)))], [heading]⟩ := by
  induction settings with
  | nil =>
      intro entries _
      rw [List.map_nil, List.map_nil, List.append_nil]
      rfl
  | cons setting settings induction =>
      rintro entries distinct
      rcases setting with ⟨key, scalar⟩
      have fresh : entries.find? key = none := by
        rw [Entries.find?_eq_none_iff]
        intro member
        exact (List.nodup_append.mp distinct).2.2 _ member _ List.mem_cons_self rfl
      have further := induction (entries ++ [(key, scalar.value)])
        (by simpa using distinct)
      rw [List.map_cons, List.foldlM_cons, Line.define?,
        Entries.insert_of_absent absent fresh]
      simpa using further

private theorem define_lines {block : Block} (fits : block.Fits)
    (absent : document.find? block.heading = none) :
    block.lines.foldlM Line.define? ⟨document, current⟩ =
      some ⟨document ++ [(block.heading, .table .header block.entries)],
        [block.heading]⟩ := by
  rw [lines, List.foldlM_cons, Line.define?, Entries.openTable_of_absent absent]
  exact define_settings block.settings absent [] fits.distinct

private theorem define_layout (blocks : List Block) :
    ∀ (document : Entries) (current : List String),
    (∀ block ∈ blocks, block.Fits) →
      (document.map Prod.fst ++ blocks.map Block.heading).Nodup →
        ((layout blocks).foldlM Line.define? ⟨document, current⟩).map (·.document) =
          some (document ++ Block.document blocks) := by
  have fresh {document : Entries} {block : Block} {blocks : List Block}
      (distinct : (document.map Prod.fst ++ (block :: blocks).map Block.heading).Nodup) :
      document.find? block.heading = none := by
    rw [Entries.find?_eq_none_iff]
    intro member
    exact (List.nodup_append.mp distinct).2.2 _ member _ List.mem_cons_self rfl
  induction blocks using layout.induct with
  | case1 =>
      intro document current _ _
      simp [layout, Block.document]
  | case2 block =>
      intro document current fits distinct
      rw [layout, define_lines (fits block List.mem_cons_self) (fresh distinct)]
      rfl
  | case3 block blocks nonempty induction =>
      intro document current fits distinct
      rw [List.forall_mem_cons] at fits
      have further :=
        induction (document ++ [(block.heading, .table .header block.entries)])
        [block.heading] fits.2 (by simpa using distinct)
      rw [layout, List.foldlM_append, define_lines fits.1 (fresh distinct)]
      · change ((layout blocks).foldlM Line.define? _).map _ = _
        rw [further, List.append_assoc]
        rfl
      · exact nonempty

end Define

/-- Sections are read back, in whatever order they and their settings stand. -/
theorem parse?_text {blocks : List Block} (fits : ∀ block ∈ blocks, block.Fits)
    (distinct : (blocks.map heading).Nodup) :
    parse? (text blocks) = some (document blocks) := by
  rw [text, Line.parse?_written (fits_layout fits),
    define_layout blocks [] [] fits distinct, List.nil_append]

end Block

end ClockDiscipline.Toml
