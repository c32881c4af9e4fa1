import Appraisal.Condition.Basic
import Appraisal.Condition.Operator
import Appraisal.Context.Basic
import Appraisal.Pattern.Reader
import Appraisal.Text.Lowercase
import Appraisal.Value.Compare

/-!
# The outcome of a condition

A test looks its field up and compares what it finds with the operand; a field that is missing or
null passes no test but the one for null. Groups are evaluated from left to right and only as far
as needed. An outcome is true, false or an error (`ConditionError`). Where the pattern for a text
comes from is left open (`Pattern.Find`), so that patterns may be compiled beforehand.
-/

namespace Appraisal

/-! ### Errors -/

/-- What the operand of an operator has to be. -/
inductive OperandShape
  | range
  | list
  | pattern
  deriving DecidableEq, Inhabited

/-- The shape in a message. -/
def OperandShape.text : OperandShape → String
  | range => "a [min, max] list"
  | list => "a list of values"
  | pattern => "a regex pattern string"

/-- Why a condition has no outcome. -/
inductive ConditionError
  /-- The operand, given by its text, does not suit the operator. -/
  | invalidOperand (field : String) (op : TestOp) (expected : OperandShape) (found : String)
  /-- Two types have no order between them. -/
  | incomparable (field : String) (op : TestOp) (left right : String)
  | invalidPattern (pattern : String) (defect : Pattern.Defect)
  | emptyNegation
  deriving DecidableEq, Inhabited

/-- The message of an error. -/
def ConditionError.message : ConditionError → String
  | invalidOperand field op expected found =>
    "operator '" ++ op.name ++ "' on field '" ++ field ++ "' expects " ++ expected.text ++
      ", got " ++ found
  | incomparable field op left right =>
    "operator '" ++ op.name ++ "' cannot compare field '" ++ field ++ "' (" ++ left ++
      ") with " ++ right
  | invalidPattern pattern defect => "invalid regex pattern '" ++ pattern ++ "': " ++ defect.text
  | emptyNegation => "NOT group has no condition to negate"

/-! ### Values -/

namespace Value

/-- The text of a value with small letters. -/
def lowerText (v : Value) : List Char := (Text.lowercase v.plainText).toList

/-- A value as a truth value, if it is one of those that are taken for it. -/
def truth? : Value → Option Bool
  | bool b => some b
  | int i => if i = 0 then some false else if i = 1 then some true else none
  | string s =>
    match Text.nameKey s with
    | "true" | "yes" | "y" | "1" | "on" => some true
    | "false" | "no" | "n" | "0" | "off" => some false
    | _ => none
  | _ => none

/-- Whether two values match. Texts match whatever their case; a text that is a numeral matches
the number; all else has to be the same. -/
def agrees (actual expected : Value) : Bool :=
  match actual, expected with
  | string a, string b => Text.lowercase a == Text.lowercase b
  | a, b =>
    match a.coerceNumber?, b.coerceNumber? with
    | some x, some y => x == y
    | _, _ => a.same b

/-- Whether two values match as a field of the given type does: for a boolean field, values that
are taken for truth values match as such. -/
def agreesAs (type : FieldType) (actual expected : Value) : Bool :=
  if type = .boolean then
    match actual.truth?, expected.truth? with
    | some a, some b => a == b
    | _, _ => actual.agrees expected
  else actual.agrees expected

/-- The order between two values: that of numbers if both are or spell some, else that of texts
whatever their case. -/
def rank? (actual bound : Value) : Option Ordering :=
  let byNumber := do Number.order? (← actual.coerceNumber?) (← bound.coerceNumber?)
  match byNumber, actual, bound with
  | some o, _, _ => some o
  | none, string a, string b => some (compare (Text.lowercase a) (Text.lowercase b))
  | none, _, _ => none

end Value

/-! ### Tests -/

/-- A way to the pattern that a text stands for. -/
abbrev Pattern.Find := String → Except Pattern.Defect Pattern

namespace Test

/-- The order between the value of the field and a bound. -/
def rank (t : Test) (actual bound : Value) : Except ConditionError Ordering :=
  match actual.rank? bound with
  | some o => .ok o
  | none => .error (.incomparable t.field t.op actual.typeName bound.typeName)

/-- The operand does not have the shape that the operator needs. -/
def misfit (t : Test) (expected : OperandShape) : ConditionError :=
  .invalidOperand t.field t.op expected t.operand.text

/-- Whether the value lies within the two bounds of the operand. -/
def isBetween (t : Test) (actual : Value) : Except ConditionError Bool :=
  match t.operand with
  | .list [low, high] => do
    if (← t.rank actual low) = .lt then return false
    return (← t.rank actual high) != .gt
  | _ => .error (t.misfit .range)

/-- Whether the value is an item of the operand. -/
def isMember (t : Test) (actual : Value) : Except ConditionError Bool :=
  match t.operand with
  | .list items => .ok (items.any (actual.agreesAs t.fieldType))
  | _ => .error (t.misfit .list)

/-- Whether the value, a list, has the operand for an item, or its text the operand's for a
part. -/
def holdsOperand (t : Test) (actual : Value) : Bool :=
  match actual with
  | .list items => items.any fun item => item.agreesAs t.fieldType t.operand
  | v => Text.contains t.operand.lowerText v.lowerText

/-- Whether the pattern of the operand occurs in the text of the value. -/
def isMatch (find : Pattern.Find) (t : Test) (actual : Value) : Except ConditionError Bool :=
  match t.operand with
  | .string pattern =>
    match find pattern with
    | .ok p => .ok (p.occursIn actual.plainText)
    | .error defect => .error (.invalidPattern pattern defect)
  | _ => .error (t.misfit .pattern)

/-- The outcome of a test of a value that is there. -/
def evalValue (find : Pattern.Find) (t : Test) (actual : Value) : Except ConditionError Bool :=
  match t.op with
  | .equals => .ok (actual.agreesAs t.fieldType t.operand)
  | .notEquals => .ok !(actual.agreesAs t.fieldType t.operand)
  | .greaterThan => return (← t.rank actual t.operand) == .gt
  | .greaterThanOrEqual => return (← t.rank actual t.operand) != .lt
  | .lessThan => return (← t.rank actual t.operand) == .lt
  | .lessThanOrEqual => return (← t.rank actual t.operand) != .gt
  | .between => t.isBetween actual
  | .member => t.isMember actual
  | .notMember => return !(← t.isMember actual)
  | .contains => .ok (t.holdsOperand actual)
  | .startsWith => .ok (t.operand.lowerText.isPrefixOf actual.lowerText)
  | .endsWith => .ok (t.operand.lowerText.isSuffixOf actual.lowerText)
  | .matchesPattern => t.isMatch find actual
  | .isNull => .ok false
  | .isNotNull => .ok true

/-- The outcome of a test. -/
def eval (find : Pattern.Find) (context : Context) (t : Test) : Except ConditionError Bool :=
  match (context.lookup? t.field).filter (!·.isNull) with
  | some actual => t.evalValue find actual
  | none => .ok (t.op == .isNull)

end Test

/-! ### Conditions -/

namespace Condition

mutual

/-- The outcome of a condition, with patterns found by `find`. -/
def evalWith (find : Pattern.Find) (context : Context) : Condition → Except ConditionError Bool
  | test t => t.eval find context
  | group .all children => evalAll find context children
  | group .any children => evalAny find context children
  | group .negation [] => .error .emptyNegation
  | group .negation (child :: _) => return !(← child.evalWith find context)

/-- Whether all conditions hold. -/
def evalAll (find : Pattern.Find) (context : Context) :
    List Condition → Except ConditionError Bool
  | [] => .ok true
  | child :: rest => do
    if ← child.evalWith find context then evalAll find context rest else return false

/-- Whether some condition holds. -/
def evalAny (find : Pattern.Find) (context : Context) :
    List Condition → Except ConditionError Bool
  | [] => .ok false
  | child :: rest => do
    if ← child.evalWith find context then return true else evalAny find context rest

end

/-- The outcome of a condition, with every pattern compiled when it is needed. -/
def eval (context : Context) (c : Condition) : Except ConditionError Bool :=
  c.evalWith Pattern.compile context

end Condition

end Appraisal
