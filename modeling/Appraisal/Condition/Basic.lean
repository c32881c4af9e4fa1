import Appraisal.Condition.Operator
import Appraisal.Value.Basic

/-!
# Conditions

A condition tests a field or combines other conditions. The combinators `and` and `or` keep
conditions flat: a group of the same connective on either side is taken apart.
-/

namespace Appraisal

/-- The test of one field against an operand. -/
structure Test where
  field : String
  fieldType : FieldType := .string
  op : TestOp
  operand : Value
  deriving Inhabited

/-- A test, or a group of conditions under a connective. -/
inductive Condition
  | test (t : Test)
  | group (op : Connective) (children : List Condition)
  deriving Inhabited

/-- The text of a test; a test for null has no operand to show. -/
def Test.text (t : Test) : String :=
  if t.op.isNullTest then t.field ++ " " ++ t.op.name
  else t.field ++ " " ++ t.op.name ++ " " ++ t.operand.text

namespace Condition

/-! ### Building conditions -/

/-- The conditions that a condition lends to a group under `op`. -/
def members (op : Connective) : Condition → List Condition
  | group own children => if own = op then children else [group own children]
  | c => [c]

/-- Two conditions under one connective. -/
def combine (op : Connective) (left right : Condition) : Condition :=
  group op (left.members op ++ right.members op)

/-- Both conditions hold. -/
def and (left right : Condition) : Condition := combine .all left right

/-- One of two conditions holds. -/
def or (left right : Condition) : Condition := combine .any left right

/-- The condition does not hold. -/
def not (c : Condition) : Condition := group .negation [c]

/-- Every condition of a list holds. -/
def all (cs : List Condition) : Condition := group .all cs

/-- Some condition of a list holds. -/
def any (cs : List Condition) : Condition := group .any cs

/-- Declare the type of the field of a test. A group stays as it is. -/
def typed (fieldType : FieldType) : Condition → Condition
  | test t => test { t with fieldType }
  | c => c

/-! ### Text -/

mutual

/-- The text of a condition, in brackets. -/
def text : Condition → String
  | test t => "(" ++ t.text ++ ")"
  | group .negation children => "(NOT" ++ textEach children ++ ")"
  | group op children => "(" ++ textBetween (" " ++ op.name ++ " ") children ++ ")"

/-- The texts of conditions, each after a blank. -/
def textEach : List Condition → String
  | [] => ""
  | c :: rest => " " ++ c.text ++ textEach rest

/-- The texts of conditions with a separator between them. -/
def textBetween (separator : String) : List Condition → String
  | [] => ""
  | [c] => c.text
  | c :: rest => c.text ++ separator ++ textBetween separator rest

end

/-! ### Tests of a condition -/

mutual

/-- The tests in a condition, from left to right. -/
def tests : Condition → List Test
  | test t => [t]
  | group _ children => testsAll children

/-- The tests in some conditions. -/
def testsAll : List Condition → List Test
  | [] => []
  | c :: rest => c.tests ++ testsAll rest

end

end Condition

end Appraisal
