import ClockDiscipline.Journal
import ClockDiscipline.Journal.ValuePattern

/-!
Directives choose what the journal lets through. A directive names the lightest level that
passes, and may confine itself to components whose target begins with certain characters.
Of the directives that apply to an entry the most specific one decides; an entry to which
none applies does not pass.
-/

namespace ClockDiscipline

/-! ## Levels in directives -/

/-- The lightest level that passes; nothing where no level does. -/
abbrev Threshold : Type := Option Level

namespace Threshold

def names : List (String × Threshold) :=
  [("off", none), ("error", some .error), ("warn", some .warn), ("info", some .info),
    ("debug", some .debug), ("trace", some .trace)]

def number? (text : String) : Option Nat :=
  let digits := match text.toList with
    | '+' :: digits => digits
    | digits => digits
  if digits.isEmpty || !digits.all Char.isDigit then none
  else some (digits.foldl (fun value digit => value * 10 + (digit.toNat - '0'.toNat)) 0)

def ofText? (text : String) : Option Threshold :=
  match number? text with
  | some number => (names[number]?).map Prod.snd
  | none => names.lookup text.toLower

example : ofText? "WARN" = some (some .warn) ∧ ofText? "5" = some (some .trace) ∧
    ofText? "0" = some none ∧ ofText? "6" = none ∧ ofText? "loud" = none := by
  decide +kernel

def passes (threshold : Threshold) (level : Level) : Bool :=
  threshold.any fun lightest => lightest.weight ≤ level.weight

end Threshold

/-! ## Directives -/

structure Directive.Field where
  name : String
  hasValue : Bool
  deriving DecidableEq, Repr

structure Directive where
  target : Option String
  span : Option String
  fields : List Directive.Field
  threshold : Threshold
  deriving DecidableEq, Repr

namespace Directive

inductive Fault where
  | malformed
  | unknownLevel
  | badValue (value : String) (fault : ValuePattern.Fault)
  /-- A piece would begin or end within a character. -/
  | splitCharacter
  deriving DecidableEq, Repr

def Fault.causes (fault : Fault) : List String :=
  match fault with
  | malformed => ["invalid filter directive"]
  | unknownLevel =>
      List.replicate 2 <|
        "error parsing level filter: expected one of \"off\", \"error\", \"warn\", \"info\", " ++
          "\"debug\", \"trace\", or a number 0-5"
  | badValue value fault =>
      let causes := fault.causes value
      ("invalid field filter: " ++ causes.headD "") :: causes
  | splitCharacter => ["byte index is not a char boundary"]

/-! ## Values of fields -/

def isUnsignedNumber (characters : List Char) : Bool :=
  let whole := characters.takeWhile Char.isDigit
  let rest := characters.drop whole.length
  let (fraction, rest) := match rest with
    | '.' :: digits =>
        let fraction := digits.takeWhile Char.isDigit
        (fraction, digits.drop fraction.length)
    | rest => ([], rest)
  let isExponent (characters : List Char) : Bool :=
    let digits := if characters.head?.any "+-".toList.contains then characters.tail
      else characters
    !digits.isEmpty && digits.all Char.isDigit
  !(whole ++ fraction).isEmpty &&
    match rest with
    | [] => true
    | letter :: exponent => (letter = 'e' || letter = 'E') && isExponent exponent

def isNumber (text : String) : Bool :=
  let unsigned := if text.toList.head?.any "+-".toList.contains then text.toList.tail
    else text.toList
  isUnsignedNumber unsigned ||
    ["inf", "infinity", "nan"].contains (String.ofList unsigned).toLower

def valueFault? (value : String) : Option ValuePattern.Fault :=
  if isNumber value then none else ValuePattern.fault? value

example : isNumber "+1.5e-3" && isNumber "-Inf" && isNumber "5." && !isNumber "+." := by
  decide +kernel

def Field.ofText (text : String) : Except Fault Field :=
  match text.splitOn "=" with
  | name :: value :: _ =>
      match valueFault? value with
      | some fault => .error (.badValue value fault)
      | none => .ok ⟨name, true⟩
  | names => .ok ⟨names.headD "", false⟩

/-! ## Reading -/

def opensName (character : Char) : Bool :=
  Text.isAlphanumeric character || "-:_".toList.contains character

def dropBytes? : (count : Nat) → List Char → Option (List Char)
  | 0, characters => some characters
  | _ + 1, [] => none
  | count + 1, character :: rest =>
      if character.utf8Size ≤ count + 1 then
        dropBytes? (count + 1 - character.utf8Size) rest
      else none

def slice (characters : List Char) (first behind : Nat) : Except Fault String :=
  match dropBytes? first characters, dropBytes? behind characters with
  | some start, some after =>
      .ok (String.ofList (start.take (start.length - after.length)))
  | _, _ => .error .splitCharacter

inductive Reading where
  | start
  | levelOrTarget (first : Nat)
  | span (first : Nat)
  | field (first : Nat)
  | fields
  | target
  | level (first : Nat)
  deriving DecidableEq, Repr

/-- Read a character at a byte. What is read ends there or goes on; its text is taken from
the `whole` one. -/
def read (whole : List Char) (reading : Reading) (directive : Directive) (position : Nat)
    (character : Char) : Except Fault (Reading × Directive) :=
  match reading, character with
  | .start, '[' => .ok (.span (position + 1), directive)
  | .start, _ =>
      if opensName character then .ok (.levelOrTarget position, directive)
      else .error .malformed
  | .levelOrTarget first, '=' => do
      let target ← slice whole first position
      return (.level (position + 1), { directive with target := some target })
  | .levelOrTarget first, '[' => do
      let target ← slice whole first position
      return (.span (position + 1), { directive with target := some target })
  | .span first, ']' => do
      return (.target, { directive with span := some (← slice whole first position) })
  | .span first, '\x7b' => do
      let span ← slice whole first position
      return (.field (position + 1), { directive with
        span := if span = "" then none else some span })
  | .field first, '\x7d' => do
      let text ← slice whole first position
      if text = "" then throw .malformed
      return (.fields,
        { directive with fields := directive.fields ++ [← Field.ofText text] })
  | .fields, ']' => .ok (.target, directive)
  | .target, '=' => .ok (.level (position + 1), directive)
  | .fields, _ | .target, _ => .error .malformed
  | reading, _ => .ok (reading, directive)

def readAll (whole : List Char) : Reading → Directive → (position : Nat) → List Char →
    Except Fault (Reading × Directive)
  | reading, directive, _, [] => .ok (reading, directive)
  | reading, directive, position, character :: rest => do
      let (reading, directive) ← read whole reading directive position character
      readAll whole reading directive (position + character.utf8Size) rest

def finish (whole : List Char) (reading : Reading) (directive : Directive) :
    Except Fault Directive := do
  let size := (String.ofList whole).utf8ByteSize
  match reading with
  | .levelOrTarget first =>
      let text ← slice whole first size
      match Threshold.ofText? text with
      | some threshold => return { directive with threshold }
      | none => return { directive with target := some text }
  | .level first =>
      let text ← slice whole first size
      if text = "" then return directive
      else
        match Threshold.ofText? text with
        | some threshold => return { directive with threshold }
        | none => throw .unknownLevel
  | .target => return directive
  | _ => throw .malformed

/-- Read a directive. Blanks around it do not count when it is cut into pieces, but the
pieces are taken from the text with them, by bytes counted from its beginning. -/
def ofText (text : String) : Except Fault Directive := do
  let whole := text.toList
  let trimmed := ((whole.dropWhile Text.isBlank).reverse.dropWhile Text.isBlank).reverse
  let (reading, directive) ← readAll whole .start ⟨none, none, [], some .trace⟩ 0 trimmed
  finish whole reading directive

/-! ## Deciding -/

/-- Every entry has one field, its message. A directive with a span or the value of a
field waits for events that the journal does not have. -/
def applies (directive : Directive) (entry : Entry) : Bool :=
  directive.span.isNone &&
    directive.fields.all (fun field => !field.hasValue && field.name = "message") &&
    directive.target.all (fun target => entry.component.target.startsWith target)

def isAsSpecific (left right : Directive) : Bool :=
  let targetSize (directive : Directive) : Nat :=
    match directive.target with
    | none => 0
    | some target => target.utf8ByteSize + 1
  targetSize right < targetSize left ||
    (targetSize left = targetSize right && right.fields.length ≤ left.fields.length)

end Directive

/-! ## Filters -/

abbrev JournalFilter : Type := List Directive

namespace JournalFilter

def ofText (text : String) : Except Directive.Fault JournalFilter :=
  ((text.splitOn ",").filter (· ≠ "")).mapM Directive.ofText

def decisive (filter : JournalFilter) (entry : Entry) : Option Directive :=
  (filter.filter (·.applies entry)).foldl
    (fun found directive =>
      match found with
      | none => some directive
      | some earlier =>
          some (if directive.isAsSpecific earlier then directive else earlier))
    none

def allows (filter : JournalFilter) (entry : Entry) : Bool :=
  (filter.decisive entry).any (·.threshold.passes entry.level)

/-- The filter that the environment asks for, or else the one that is configured. A filter
of the environment that cannot be read counts as none, but reading must not break off. -/
def choose (requested : Option String) (configured : String) :
    Except Directive.Fault JournalFilter :=
  match requested.map ofText with
  | some (.ok filter) => .ok filter
  | some (.error .splitCharacter) => .error .splitCharacter
  | _ => ofText configured

end JournalFilter

end ClockDiscipline
