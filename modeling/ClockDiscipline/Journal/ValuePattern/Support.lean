import ClockDiscipline.Journal.ValuePattern.Fault

/-!
What of a regular expression can be carried out. Its parts must not lie too deep in one
another. Classes of characters that need tables of all scripts are not supported, and
neither is to ignore case, which needs them too. Without the Unicode flag an expression
must still match whole characters.
-/

namespace ClockDiscipline.ValuePattern

abbrev Check := Except Fault

def object {α : Type} (cause : Cause) (span : Span) : Check α :=
  throw (.broken cause span none)

/-! ## Depth -/

def deeper (depth : Nat) (span : Span) : Check Nat :=
  if depth < depthLimit then return depth + 1 else object .tooDeep span

mutual

def ClassItem.checkDepth (depth : Nat) : ClassItem → Check Unit
  | .brackets span _ content => do content.checkDepth (← deeper depth span)
  | .union span items => do ClassItem.checkDepths (← deeper depth span) items
  | _ => return

def ClassItem.checkDepths (depth : Nat) : List ClassItem → Check Unit
  | [] => return
  | item :: rest => do
      item.checkDepth depth
      ClassItem.checkDepths depth rest

def ClassContent.checkDepth (depth : Nat) : ClassContent → Check Unit
  | .item item => item.checkDepth depth
  | .operation span _ left right => do
      let depth ← deeper depth span
      left.checkDepth depth
      right.checkDepth depth

end

mutual

def Expression.checkDepth (depth : Nat) : Expression → Check Unit
  | .brackets span _ content => do content.checkDepth (← deeper depth span)
  | .repetition span body | .group span _ body => do body.checkDepth (← deeper depth span)
  | .alternation span parts | .concatenation span parts => do
      Expression.checkDepths (← deeper depth span) parts
  | _ => return

def Expression.checkDepths (depth : Nat) : List Expression → Check Unit
  | [] => return
  | part :: rest => do
      part.checkDepth depth
      Expression.checkDepths depth rest

end

/-! ## Flags -/

structure Flags where
  ignoresCase : Bool
  isUnicode : Bool
  deriving DecidableEq, Repr

namespace Flags

def change (flags : Flags) (change : FlagChange) : Flags :=
  ⟨change.ignoresCase.getD flags.ignoresCase, change.isUnicode.getD flags.isUnicode⟩

def foldsAll (flags : Flags) : Bool := flags.ignoresCase && flags.isUnicode

/-- Without the Unicode flag, a character by its number is a byte, which must be ASCII. -/
def checkByte (flags : Flags) (literal : Literal) : Check Unit :=
  if !flags.isUnicode && literal.mayBeByte && 0x80 ≤ literal.code then
    object .invalidUtf8 literal.span
  else return

def checkShorthand (flags : Flags) (span : Span) (isNegated : Bool) : Check Unit :=
  if flags.isUnicode then object .unknownClass span
  else if isNegated then object .invalidUtf8 span
  else return

def checkProperty {α : Type} (flags : Flags) (span : Span) : Check α :=
  object (if flags.isUnicode then .unknownProperty else .unicodeRefused) span

end Flags

/-! ## Classes -/

inductive Extent where
  | none
  | some
  | all
  deriving DecidableEq, Repr

namespace Extent

def union : Extent → Extent → Extent
  | none, other | other, none => other
  | all, all => all
  | _, _ => some

def negate : Extent → Extent
  | none => all
  | all => none
  | some => some

def combine : ClassOperator → Extent → Extent → Extent
  | .intersection, none, _ | .intersection, _, none => none
  | .intersection, all, other | .intersection, other, all => other
  | .difference, none, _ | .difference, _, all => none
  | .difference, other, none => other
  | .symmetricDifference, none, other | .symmetricDifference, other, none => other
  | .symmetricDifference, all, other | .symmetricDifference, other, all => other.negate
  | _, _, _ => some

/-- To ignore case is possible only where it changes nothing. -/
def fold (flags : Flags) (span : Span) (extent : Extent) : Check Unit :=
  if flags.foldsAll && extent = some then object .unknownCase span else return

def close (flags : Flags) (span : Span) (isNegated : Bool) (extent : Extent) :
    Check Extent := do
  extent.fold flags span
  if isNegated && !flags.isUnicode then object .invalidUtf8 span
  else return if isNegated then extent.negate else extent

end Extent

def Literal.checkInClass (flags : Flags) (literal : Literal) : Check Unit := do
  flags.checkByte literal
  if !flags.isUnicode && 0x80 ≤ literal.code then object .unicodeRefused literal.span

mutual

def ClassItem.extent (flags : Flags) : ClassItem → Check Extent
  | .nothing _ => return .none
  | .single character => do
      character.checkInClass flags
      return .some
  | .range _ first last => do
      first.checkInClass flags
      last.checkInClass flags
      return .some
  | .named span isNegated => Extent.close flags span isNegated .some
  | .shorthand span isNegated => do
      flags.checkShorthand span isNegated
      return .some
  | .property span => flags.checkProperty span
  | .brackets span isNegated content => do
      (← content.extent flags).close flags span isNegated
  | .union _ items => ClassItem.unionExtent flags items

def ClassItem.unionExtent (flags : Flags) : List ClassItem → Check Extent
  | [] => return .none
  | item :: rest => do
      let extent ← item.extent flags
      return extent.union (← ClassItem.unionExtent flags rest)

def ClassContent.extent (flags : Flags) : ClassContent → Check Extent
  | .item item => item.extent flags
  | .operation _ operator left right => do
      let first ← left.extent flags
      let second ← right.extent flags
      second.fold flags right.span
      first.fold flags left.span
      return Extent.combine operator first second

end

/-! ## Expressions -/

/-- What is known while an expression is checked: the flags that hold, and whether the
ends of words have been asked for in all scripts. -/
structure Meaning where
  flags : Flags
  hasWordBoundary : Bool

abbrev Checking := StateT Meaning Check

def setFlags (flags : Flags) : Checking Unit :=
  modify fun meaning => { meaning with flags }

mutual

def Expression.check : Expression → Checking Unit
  | .nothing _ => return
  | .flags _ change => do setFlags ((← get).flags.change change)
  | .literal character => do
      let known := (← get).flags
      known.checkByte character
      if known.foldsAll then object .unknownCase character.span
  | .anyCharacter span => do
      unless (← get).flags.isUnicode do object .invalidUtf8 span
  | .edge _ isWordBoundary => do
      if isWordBoundary && (← get).flags.isUnicode then
        modify fun meaning => { meaning with hasWordBoundary := true }
  | .shorthand span isNegated => do (← get).flags.checkShorthand span isNegated
  | .property span => do (← get).flags.checkProperty span
  | .brackets span isNegated content => do
      let known := (← get).flags
      let _ ← (← content.extent known).close known span isNegated
  | .repetition _ body => body.check
  | .group _ change body => do
      let outer := (← get).flags
      setFlags (outer.change change)
      body.check
      setFlags outer
  | .alternation _ parts | .concatenation _ parts => Expression.checkAll parts

def Expression.checkAll : List Expression → Checking Unit
  | [] => return
  | part :: rest => do
      part.check
      Expression.checkAll rest

end

def Expression.checkWhole (expression : Expression) : Check Unit := do
  expression.checkDepth 0
  let ((), meaning) ← expression.check.run ⟨⟨false, true⟩, false⟩
  if meaning.hasWordBoundary then throw .wordBoundary

end ClockDiscipline.ValuePattern
