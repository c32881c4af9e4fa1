/-!
# Operators

The arithmetic, unary and logical operators of formulas, with their symbols.
-/

namespace Appraisal

/-- The operators of arithmetic. -/
inductive ArithmeticOp
  | add
  | sub
  | mul
  | div
  | floorDiv
  | mod
  | pow
  deriving DecidableEq, Inhabited

/-- The symbol of an arithmetic operator. -/
def ArithmeticOp.symbol : ArithmeticOp → String
  | add => "+"
  | sub => "-"
  | mul => "*"
  | div => "/"
  | floorDiv => "//"
  | mod => "%"
  | pow => "**"

/-- Whether the right operand is a divisor. -/
def ArithmeticOp.divides : ArithmeticOp → Bool
  | div | floorDiv | mod => true
  | _ => false

/-- The operators with one operand. -/
inductive UnaryOp
  | neg
  | pos
  | not
  deriving DecidableEq, Inhabited

/-- The symbol of a unary operator. -/
def UnaryOp.symbol : UnaryOp → String
  | neg => "-"
  | pos => "+"
  | not => "not"

/-- The connectives, which evaluate their right operand only if they need it. -/
inductive LogicalOp
  | and
  | or
  deriving DecidableEq, Inhabited

/-- The word for a connective. -/
def LogicalOp.word : LogicalOp → String
  | and => "and"
  | or => "or"

end Appraisal
