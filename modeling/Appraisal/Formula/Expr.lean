import Appraisal.Formula.Operator
import Appraisal.Value.Compare

/-!
# Formula trees

The tree of a formula that the language allows. It has a height (`Expr.depth`), the field path
that it stands for if it is a chain of names (`Expr.path?`), its children in the order of the
source, and a text with all brackets written out (`Expr.text`).
-/

namespace Appraisal

/-- A formula. -/
inductive Expr
  | literal (value : Value)
  | variable (name : String)
  /-- A field of a group of fields. -/
  | member (object : Expr) (name : String)
  | arithmetic (op : ArithmeticOp) (left right : Expr)
  | unary (op : UnaryOp) (operand : Expr)
  /-- A chain of comparisons, each between neighbours. -/
  | comparison (first : Expr) (links : List (Comparison × Expr))
  | logical (op : LogicalOp) (left right : Expr)
  | call (function : String) (arguments : List Expr)
  | conditional (test yes no : Expr)
  | list (items : List Expr)
  | tuple (items : List Expr)
  | subscript (object index : Expr)
  deriving Inhabited

namespace Expr

/-- The dotted path of a chain of names. -/
def path? : Expr → Option String
  | .variable name => some name
  | .member object name => object.path?.map (· ++ "." ++ name)
  | _ => none

/-- The parts of a formula in the order in which its source names them. -/
def children : Expr → List Expr
  | .literal _ | .variable _ => []
  | .member object _ => [object]
  | .arithmetic _ left right | .logical _ left right => [left, right]
  | .unary _ operand => [operand]
  | .comparison first links => first :: links.map (·.2)
  | .call _ arguments => arguments
  | .conditional test yes no => [yes, test, no]
  | .list items | .tuple items => items
  | .subscript object index => [object, index]

mutual

/-- A formula and all parts of its parts, each before what it consists of. -/
def subtrees : Expr → List Expr
  | e@(.literal _) | e@(.variable _) => [e]
  | e@(.member object _) => e :: object.subtrees
  | e@(.arithmetic _ left right) | e@(.logical _ left right) =>
    e :: (left.subtrees ++ right.subtrees)
  | e@(.unary _ operand) => e :: operand.subtrees
  | e@(.comparison first links) => e :: (first.subtrees ++ subtreesLinks links)
  | e@(.call _ arguments) => e :: subtreesAll arguments
  | e@(.conditional test yes no) => e :: (yes.subtrees ++ test.subtrees ++ no.subtrees)
  | e@(.list items) | e@(.tuple items) => e :: subtreesAll items
  | e@(.subscript object index) => e :: (object.subtrees ++ index.subtrees)

/-- The subtrees of several formulas. -/
def subtreesAll : List Expr → List Expr
  | [] => []
  | e :: rest => e.subtrees ++ subtreesAll rest

/-- The subtrees of the operands of a comparison chain. -/
def subtreesLinks : List (Comparison × Expr) → List Expr
  | [] => []
  | (_, e) :: rest => e.subtrees ++ subtreesLinks rest

end

/-! ### Height -/

mutual

/-- The height of a formula; a constant or a variable has height one. -/
def depth : Expr → Nat
  | .literal _ | .variable _ => 1
  | .member object _ => object.depth + 1
  | .arithmetic _ left right | .logical _ left right => max left.depth right.depth + 1
  | .unary _ operand => operand.depth + 1
  | .comparison first links => max first.depth (depthLinks links) + 1
  | .call _ arguments => depthAll arguments + 1
  | .conditional test yes no => max (max test.depth yes.depth) no.depth + 1
  | .list items | .tuple items => depthAll items + 1
  | .subscript object index => max object.depth index.depth + 1

/-- The height of the highest of some formulas. -/
def depthAll : List Expr → Nat
  | [] => 0
  | e :: rest => max e.depth (depthAll rest)

/-- The height of the highest operand of a comparison chain. -/
def depthLinks : List (Comparison × Expr) → Nat
  | [] => 0
  | (_, e) :: rest => max e.depth (depthLinks rest)

end

/-! ### Text -/

/-- The text of a constant. -/
def literalText : Value → String
  | .null => "None"
  | .bool b => if b then "True" else "False"
  | .float v => Number.fixedPoint v
  | v => v.text

/-- The text of a unary operator in front of its operand. -/
def signText : UnaryOp → String
  | .not => "not "
  | op => op.symbol

mutual

/-- The source of a formula, with brackets around every operation. -/
def text : Expr → String
  | .literal v => literalText v
  | .variable name => name
  | .member object name => object.text ++ "." ++ name
  | .arithmetic op left right => "(" ++ left.text ++ " " ++ op.symbol ++ " " ++ right.text ++ ")"
  | .unary op operand => "(" ++ signText op ++ operand.text ++ ")"
  | .comparison first links => "(" ++ first.text ++ textLinks links ++ ")"
  | .logical op left right => "(" ++ left.text ++ " " ++ op.word ++ " " ++ right.text ++ ")"
  | .call function arguments => function ++ "(" ++ textAll arguments ++ ")"
  | .conditional test yes no =>
    "(" ++ yes.text ++ " if " ++ test.text ++ " else " ++ no.text ++ ")"
  | .list items => "[" ++ textAll items ++ "]"
  | .tuple [item] => "(" ++ item.text ++ ",)"
  | .tuple items => "(" ++ textAll items ++ ")"
  | .subscript object index => object.text ++ "[" ++ index.text ++ "]"

/-- Formulas with commas between them. -/
def textAll : List Expr → String
  | [] => ""
  | [e] => e.text
  | e :: rest => e.text ++ ", " ++ textAll rest

/-- The links of a comparison chain. -/
def textLinks : List (Comparison × Expr) → String
  | [] => ""
  | (op, e) :: rest => " " ++ op.symbol ++ " " ++ e.text ++ textLinks rest

end

/-! ### Outline -/

/-- One line on the outermost part of a formula. -/
def label : Expr → String
  | .literal v => "Literal(" ++ v.text ++ ")"
  | .variable name => "Variable(" ++ name ++ ")"
  | .member object name => "Attribute(" ++ ((Expr.member object name).path?.getD "") ++ ")"
  | .arithmetic op _ _ => "BinaryOp(" ++ op.symbol ++ ")"
  | .unary op _ => "UnaryOp(" ++ op.symbol ++ ")"
  | .comparison _ links => "Compare(" ++ Text.join " " (links.map (·.1.symbol)) ++ ")"
  | .logical op _ _ => "BoolOp(" ++ op.word ++ ")"
  | .call function _ => "Call(" ++ function ++ ")"
  | .conditional .. => "IfExp"
  | .list _ => "List"
  | .tuple _ => "Tuple"
  | .subscript .. => "Subscript"

mutual

/-- A line for every part of a formula, two blanks further in for every level. A chain of names
is one part. -/
def outlineLines (indent : Nat) : Expr → List String
  | e@(.arithmetic _ left right) | e@(.logical _ left right) =>
    line indent e :: (left.outlineLines (indent + 1) ++ right.outlineLines (indent + 1))
  | e@(.unary _ operand) => line indent e :: operand.outlineLines (indent + 1)
  | e@(.comparison first links) =>
    line indent e :: (first.outlineLines (indent + 1) ++ outlineLinks (indent + 1) links)
  | e@(.call _ arguments) => line indent e :: outlineAll (indent + 1) arguments
  | e@(.conditional test yes no) =>
    line indent e :: (yes.outlineLines (indent + 1) ++ test.outlineLines (indent + 1)
      ++ no.outlineLines (indent + 1))
  | e@(.list items) | e@(.tuple items) => line indent e :: outlineAll (indent + 1) items
  | e@(.subscript object index) =>
    line indent e :: (object.outlineLines (indent + 1) ++ index.outlineLines (indent + 1))
  | e => [line indent e]
where
  line (indent : Nat) (e : Expr) : String :=
    String.ofList (List.replicate (2 * indent) ' ') ++ e.label

/-- The lines of several formulas. -/
def outlineAll (indent : Nat) : List Expr → List String
  | [] => []
  | e :: rest => e.outlineLines indent ++ outlineAll indent rest

/-- The lines of the operands of a comparison chain. -/
def outlineLinks (indent : Nat) : List (Comparison × Expr) → List String
  | [] => []
  | (_, e) :: rest => e.outlineLines indent ++ outlineLinks indent rest

end

/-- The tree of a formula, a line for every part. -/
def outline (e : Expr) : String := Text.join "\n" (e.outlineLines 0)

end Expr

end Appraisal
