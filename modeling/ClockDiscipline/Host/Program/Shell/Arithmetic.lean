import ClockDiscipline.Host.Program.Number
import ClockDiscipline.Host.Program.Shell.Fault

/-!
Expressions on signed 64-bit numbers, as the shell computes them. Names stand for the
values of variables, and an assignment changes one.

A text is computed from left to right, and what is wrong with it is found where its turn
comes. So an expression can hold a fault, which is met after what stands before it has
been computed.
-/

namespace ClockDiscipline.Shell

inductive BinaryOperator where
  | multiply | divide | remainder | add | subtract | shiftLeft | shiftRight
  | less | lessEqual | greater | greaterEqual | equal | notEqual | and | xor | or
  deriving DecidableEq, Repr

inductive UnaryOperator where
  | negate | keep | not | complement
  deriving DecidableEq, Repr

inductive Expression where
  | number (value : Int)
  | name (name : String)
  | unary (operator : UnaryOperator) (operand : Expression)
  | binary (operator : BinaryOperator) (left right : Expression)
  | both (left right : Expression)
  | either (left right : Expression)
  | choice (test yes no : Expression)
  | assign (name : String) (operator : Option BinaryOperator) (value : Expression)
  | fault (cause : ExpressionFault)
  | before (expression : Expression) (cause : ExpressionFault)
  deriving Repr

/-! ## Operations -/

def wrap (value : Int) : Int := Int.bmod value Number.range

def bits (value : Int) : Nat := (value % Number.range).toNat

def ofBool (value : Bool) : Int := if value then 1 else 0

def quotient (rule : Int → Int → Int) (left right : Int) : Except ExpressionFault Int :=
  if right = 0 then .error .divisionByZero
  else if right = -1 ∧ left = -(Number.largest + 1) then .error .quotientTooLarge
  else .ok (rule left right)

def BinaryOperator.apply (operator : BinaryOperator) (left right : Int) :
    Except ExpressionFault Int :=
  match operator with
  | .multiply => .ok (wrap (left * right))
  | .divide => quotient Int.tdiv left right
  | .remainder => quotient Int.tmod left right
  | .add => .ok (wrap (left + right))
  | .subtract => .ok (wrap (left - right))
  | .shiftLeft => .ok (wrap (bits left <<< (bits right % 64)))
  | .shiftRight => .ok (left >>> (bits right % 64))
  | .less => .ok (ofBool (left < right))
  | .lessEqual => .ok (ofBool (left ≤ right))
  | .greater => .ok (ofBool (right < left))
  | .greaterEqual => .ok (ofBool (right ≤ left))
  | .equal => .ok (ofBool (left = right))
  | .notEqual => .ok (ofBool (left ≠ right))
  | .and => .ok (wrap (bits left &&& bits right))
  | .xor => .ok (wrap (bits left ^^^ bits right))
  | .or => .ok (wrap (bits left ||| bits right))

def UnaryOperator.apply (operator : UnaryOperator) (operand : Int) : Int :=
  match operator with
  | .negate => wrap (-operand)
  | .keep => operand
  | .not => ofBool (operand = 0)
  | .complement => -operand - 1

def BinaryOperator.rank : BinaryOperator → Nat
  | multiply | divide | remainder => 0
  | add | subtract => 1
  | shiftLeft | shiftRight => 2
  | less | lessEqual | greater | greaterEqual => 3
  | equal | notEqual => 4
  | and => 5
  | xor => 6
  | or => 7

namespace Expression

/-! ## Symbols -/

inductive Symbol where
  | number (value : Int)
  | name (name : String)
  | operator (operator : BinaryOperator)
  | assign (operator : Option BinaryOperator)
  | both
  | either
  | not
  | complement
  | opening
  | closing
  | question
  | colon
  | strange
  deriving DecidableEq, Repr

def symbols : List (List Char × Symbol) :=
  [("<<=", .assign (some .shiftLeft)), (">>=", .assign (some .shiftRight)),
    ("<<", .operator .shiftLeft), (">>", .operator .shiftRight),
    ("<=", .operator .lessEqual), (">=", .operator .greaterEqual),
    ("==", .operator .equal), ("!=", .operator .notEqual), ("&&", .both), ("||", .either),
    ("*=", .assign (some .multiply)), ("/=", .assign (some .divide)),
    ("%=", .assign (some .remainder)), ("+=", .assign (some .add)),
    ("-=", .assign (some .subtract)), ("&=", .assign (some .and)),
    ("^=", .assign (some .xor)), ("|=", .assign (some .or)), ("=", .assign none),
    ("*", .operator .multiply), ("/", .operator .divide), ("%", .operator .remainder),
    ("+", .operator .add), ("-", .operator .subtract), ("<", .operator .less),
    (">", .operator .greater), ("&", .operator .and), ("^", .operator .xor),
    ("|", .operator .or), ("!", .not), ("~", .complement), ("(", .opening),
    (")", .closing), ("?", .question),
    (":", .colon)].map fun (text, symbol) => (text.toList, symbol)

def symbolsWithin : (fuel : Nat) → List Char → List Symbol
  | 0, _ => []
  | _ + 1, [] => []
  | fuel + 1, first :: rest =>
      let characters := first :: rest
      if " \t\n".toList.contains first then symbolsWithin fuel rest
      else if first.isDigit then
        let (value, rest) := Number.take characters
        .number (min value Number.largest : Nat) :: symbolsWithin fuel rest
      else if isNameStart first then
        let name := characters.takeWhile isNameCharacter
        .name (String.ofList name) :: symbolsWithin fuel (characters.drop name.length)
      else
        match symbols.find? fun (text, _) => text <+: characters with
        | some (text, symbol) =>
            symbol :: symbolsWithin fuel (characters.drop text.length)
        | none => .strange :: symbolsWithin fuel rest

def symbolsOf (text : String) : List Symbol := symbolsWithin text.length text.toList

/-! ## Reading -/

mutual

def readTerm : (fuel : Nat) → List Symbol → Expression × List Symbol
  | 0, _ => (.fault .missingOperand, [])
  | fuel + 1, symbols =>
      let signed (operator : UnaryOperator) (rest : List Symbol) :
          Expression × List Symbol :=
        let (operand, rest) := readTerm fuel rest
        (.unary operator operand, rest)
      match symbols with
      | .number value :: rest => (.number value, rest)
      | .name parameter :: rest => (.name parameter, rest)
      | .operator .subtract :: rest => signed .negate rest
      | .operator .add :: rest => signed .keep rest
      | .not :: rest => signed .not rest
      | .complement :: rest => signed .complement rest
      | .opening :: rest =>
          match readAssignment fuel rest with
          | (inner, .closing :: rest) => (inner, rest)
          | (inner, _) => (.before inner .missingParenthesis, [])
      | _ => (.fault .missingOperand, [])

/-- Terms behind `left` with operators that bind more strongly than `limit`. -/
def readTerms : (fuel : Nat) → (limit : Nat) → (left : Expression) → List Symbol →
    Expression × List Symbol
  | 0, _, left, _ => (left, [])
  | fuel + 1, limit, left, symbols =>
      match symbols with
      | .operator operator :: rest =>
          if operator.rank < limit then
            let (right, rest) := readTerm fuel rest
            let (right, rest) := readTerms fuel operator.rank right rest
            readTerms fuel limit (.binary operator left right) rest
          else (left, symbols)
      | _ => (left, symbols)

def readBoth : (fuel : Nat) → List Symbol → Expression × List Symbol
  | 0, _ => (.fault .missingOperand, [])
  | fuel + 1, symbols =>
      let (left, rest) := readTerm fuel symbols
      match readTerms fuel (BinaryOperator.or.rank + 1) left rest with
      | (left, .both :: rest) =>
          let (right, rest) := readBoth fuel rest
          (.both left right, rest)
      | result => result

def readEither : (fuel : Nat) → List Symbol → Expression × List Symbol
  | 0, _ => (.fault .missingOperand, [])
  | fuel + 1, symbols =>
      match readBoth fuel symbols with
      | (left, .either :: rest) =>
          let (right, rest) := readEither fuel rest
          (.either left right, rest)
      | result => result

def readChoice : (fuel : Nat) → List Symbol → Expression × List Symbol
  | 0, _ => (.fault .missingOperand, [])
  | fuel + 1, symbols =>
      match readEither fuel symbols with
      | (test, .question :: rest) =>
          match readAssignment fuel rest with
          | (yes, .colon :: rest) =>
              let (no, rest) := readChoice fuel rest
              (.choice test yes no, rest)
          | (yes, _) => (.choice test yes (.fault .missingColon), [])
      | result => result

def readAssignment : (fuel : Nat) → List Symbol → Expression × List Symbol
  | 0, _ => (.fault .missingOperand, [])
  | fuel + 1, symbols =>
      match symbols with
      | .name parameter :: .assign operator :: rest =>
          let (value, rest) := readAssignment fuel rest
          (.assign parameter operator value, rest)
      | symbols => readChoice fuel symbols

end

def ofText (text : String) : Expression :=
  let symbols := symbolsOf text
  match readAssignment (8 * symbols.length + 16) symbols with
  | (expression, []) => expression
  | (expression, _ :: _) => .before expression .leftOver

/-! ## Values -/

structure Surroundings (m : Type → Type) where
  lookUp : String → m Int
  assign : String → Int → m Unit
  fail : ExpressionFault → m Int

variable {m : Type → Type} [Monad m]

/-- The value of an expression. Where it is skipped, its value does not count, and only
what is wrong with its text is looked for. -/
def evaluate (around : Surroundings m) (isSkipped : Bool) : Expression → m Int
  | .number value => return value
  | .name parameter => if isSkipped then return 0 else around.lookUp parameter
  | .unary operator operand => return operator.apply (← evaluate around isSkipped operand)
  | .binary operator left right => do
      let first ← evaluate around isSkipped left
      let second ← evaluate around isSkipped right
      if isSkipped then return second else applied operator first second
  | .both left right => do
      let first ← evaluate around isSkipped left
      let second ← evaluate around (isSkipped || first = 0) right
      return ofBool (first ≠ 0 && second ≠ 0)
  | .either left right => do
      let first ← evaluate around isSkipped left
      let second ← evaluate around (isSkipped || first ≠ 0) right
      return ofBool (first ≠ 0 || second ≠ 0)
  | .choice test yes no => do
      let value ← evaluate around isSkipped test
      let first ← evaluate around (isSkipped || value = 0) yes
      let second ← evaluate around (isSkipped || value ≠ 0) no
      return if value ≠ 0 then first else second
  | .assign parameter operator value => do
      let value ← evaluate around isSkipped value
      if isSkipped then return value
      else
        let value ← match operator with
          | none => pure value
          | some operator => applied operator (← around.lookUp parameter) value
        around.assign parameter value
        return value
  | .fault cause => around.fail cause
  | .before expression cause => do
      let _ ← evaluate around isSkipped expression
      around.fail cause
where
  applied (operator : BinaryOperator) (left right : Int) : m Int :=
    match operator.apply left right with
    | .ok value => return value
    | .error cause => around.fail cause

end Expression

end ClockDiscipline.Shell
