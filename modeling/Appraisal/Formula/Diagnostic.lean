import Appraisal.Formula.Error
import Appraisal.Formula.Parse
import Appraisal.Formula.References

/-!
# Remarks on a formula

What is worth telling the author of a formula: the error of a source that is no formula, and
otherwise divisions that may be by zero, trees that are hard to read, and fields that a schema
does not list.
-/

namespace Appraisal

/-- How grave a remark is. -/
inductive Severity
  | info
  | warning
  | error
  deriving DecidableEq

/-- The name of a severity. -/
def Severity.name : Severity → String
  | info => "info"
  | warning => "warning"
  | error => "error"

/-- A remark on a formula. -/
structure Diagnostic where
  severity : Severity
  message : String
  position : Option Nat := none
  suggestion : Option String := none
  deriving DecidableEq

namespace Diagnostic

/-- The remark that reports an error of a source. -/
def ofParse (e : ParseError) : Diagnostic where
  severity := .error
  message := e.complaint.message
  position := some e.position
  suggestion := e.complaint.suggestion? Builtin.names

/-- A remark in one line. -/
def text (d : Diagnostic) : String :=
  d.severity.name ++ FormulaError.placeText d.position ++ ": " ++ d.message
    ++ FormulaError.hintText d.suggestion

/-- The remark on a divisor that may be zero. -/
def mayDivideByZero : Diagnostic where
  severity := .warning
  message := "formula divides by a value that may be zero"
  suggestion := some "guard the divisor, e.g. x / max(y, 1)"

/-- The remark on a tree of a height that is hard to read. -/
def deeplyNested (depth : Nat) : Diagnostic where
  severity := .warning
  message := "formula is nested " ++ depth.repr ++ " levels deep"
  suggestion := some "split it into simpler rules for readability"

/-- The remark on several divisions. -/
def manyDivisions (count : Nat) : Diagnostic where
  severity := .info
  message := "formula performs " ++ count.repr
    ++ " divisions; floating-point rounding may accumulate"

/-- The remark on a field that the schema does not list. -/
def unknownField (field : String) : Diagnostic where
  severity := .warning
  message := "field '" ++ field ++ "' is not in the schema"
  suggestion := some "check the spelling or add the field to the listing context"

end Diagnostic

namespace Expr

/-- The greatest height of a tree that is easy to read. -/
def readableDepth : Nat := 5

/-- The right operand of a division. -/
def divisor? : Expr → Option Expr
  | .arithmetic op _ right => if op.divides then some right else none
  | _ => none

/-- The right operands of all divisions in a formula. -/
def divisors (e : Expr) : List Expr := e.subtrees.filterMap divisor?

/-- Whether a formula is a number other than zero, with any unary operators before it. -/
def isNonzeroLiteral : Expr → Bool
  | .literal (.int i) => i != 0
  | .literal (.float v) => v != 0.0
  | .unary _ operand => operand.isNonzeroLiteral
  | _ => false

/-- The remarks on a formula. -/
def diagnostics (e : Expr) : List Diagnostic :=
  (if e.divisors.all isNonzeroLiteral then [] else [.mayDivideByZero])
    ++ (if readableDepth < e.depth then [.deeplyNested e.depth] else [])
    ++ (if 2 ≤ e.divisors.length then [.manyDivisions e.divisors.length] else [])

/-- The remarks on the fields that a formula reads and no spelling of which is in the schema. -/
def schemaDiagnostics (e : Expr) (schema : List String) : List Diagnostic :=
  let known := schema.map flatSpelling
  (e.references.filter fun field => !known.contains (flatSpelling field)).map
    Diagnostic.unknownField

end Expr

/-- The remarks on the source of a formula under the usual limits. -/
def Diagnostic.ofSource (source : String) : List Diagnostic :=
  match Expr.parse {} source with
  | .ok e => e.diagnostics
  | .error e => [.ofParse e]

end Appraisal
