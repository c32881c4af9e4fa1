import Appraisal.Text.Character

/-!
# The vocabulary of conditions

The types that a field may be declared to have, the operators that test a field and the
connectives that combine tests. Each has a canonical name (`name`); `ofName?` reads that name and
some others, whatever the case of their letters and the blanks around them.
-/

namespace Appraisal

/-- A name that stands for nothing. -/
structure UnknownName where
  name : String
  deriving DecidableEq

/-- The message about an unknown name. -/
def UnknownName.message (e : UnknownName) : String := "unknown name '" ++ e.name ++ "'"

/-- The type that a tested field is declared to have. -/
inductive FieldType
  | string
  | number
  | boolean
  | enum
  | list
  deriving DecidableEq, Inhabited

namespace FieldType

/-- The canonical name of a field type. -/
def name : FieldType → String
  | string => "string"
  | number => "number"
  | boolean => "boolean"
  | enum => "enum"
  | list => "list"

/-- The field type that a name stands for. -/
def ofName? (s : String) : Option FieldType :=
  match Text.nameKey s with
  | "string" | "str" | "text" => some string
  | "number" | "numeric" | "int" | "integer" | "float" | "decimal" => some number
  | "boolean" | "bool" => some boolean
  | "enum" | "select" => some enum
  | "list" | "array" | "multi_select" => some list
  | _ => none

end FieldType

/-- The operators that test one field. -/
inductive TestOp
  | equals
  | notEquals
  | greaterThan
  | greaterThanOrEqual
  | lessThan
  | lessThanOrEqual
  /-- Within two bounds, which count as inside. -/
  | between
  | member
  | notMember
  | contains
  | startsWith
  | endsWith
  | matchesPattern
  | isNull
  | isNotNull
  deriving DecidableEq, Inhabited

namespace TestOp

/-- The canonical name of an operator. -/
def name : TestOp → String
  | equals => "equals"
  | notEquals => "not_equals"
  | greaterThan => "greater_than"
  | greaterThanOrEqual => "greater_than_or_equal"
  | lessThan => "less_than"
  | lessThanOrEqual => "less_than_or_equal"
  | between => "between"
  | member => "in"
  | notMember => "not_in"
  | contains => "contains"
  | startsWith => "starts_with"
  | endsWith => "ends_with"
  | matchesPattern => "regex"
  | isNull => "is_null"
  | isNotNull => "is_not_null"

/-- The operator that a name or a symbol stands for. -/
def ofName? (s : String) : Option TestOp :=
  match Text.nameKey s with
  | "equals" | "eq" | "==" => some equals
  | "not_equals" | "neq" | "!=" => some notEquals
  | "greater_than" | "gt" | ">" => some greaterThan
  | "greater_than_or_equal" | "gte" | ">=" => some greaterThanOrEqual
  | "less_than" | "lt" | "<" => some lessThan
  | "less_than_or_equal" | "lte" | "<=" => some lessThanOrEqual
  | "between" => some between
  | "in" => some member
  | "not_in" => some notMember
  | "contains" => some contains
  | "starts_with" => some startsWith
  | "ends_with" => some endsWith
  | "regex" | "matches" => some matchesPattern
  | "is_null" => some isNull
  | "is_not_null" => some isNotNull
  | _ => none

/-- Whether an operator asks only if there is a value, and so has no operand. -/
def isNullTest : TestOp → Bool
  | isNull | isNotNull => true
  | _ => false

end TestOp

/-- The connectives between conditions. -/
inductive Connective
  | all
  | any
  | negation
  deriving DecidableEq, Inhabited

namespace Connective

/-- The canonical name of a connective. -/
def name : Connective → String
  | all => "AND"
  | any => "OR"
  | negation => "NOT"

/-- The connective that a name stands for. -/
def ofName? (s : String) : Option Connective :=
  match Text.nameKey s with
  | "and" => some all
  | "or" => some any
  | "not" => some negation
  | _ => none

end Connective

end Appraisal
