import Appraisal.Context.Basic
import Appraisal.Formula.Call
import Appraisal.Formula.Expr

/-!
# Evaluation

The value of a formula on a listing. Operands are evaluated from left to right; the connectives,
the conditional and the comparison chain leave out what does not matter. A tree that is higher
than the evaluator admits fails at the first part that lies too deep.
-/

namespace Appraisal

/-! ### Fields and items -/

/-- The fault of a name that resolves to no value. -/
def Context.unresolved (context : Context) (path : String) : Fault :=
  if context.isGroup path then .groupOfFields path
  else .undefined path context.fieldPaths

/-- The value of a variable: a flat spelling of a field. -/
def Context.variable (context : Context) (name : String) : Outcome Fault Value :=
  match context.getFlat? name with
  | some v => .ok v
  | none => .error (context.unresolved name)

/-- The value of a dotted path. -/
def Context.path (context : Context) (path : String) : Outcome Fault Value :=
  match context.lookup? path with
  | some v => .ok v
  | none => .error (context.unresolved path)

/-- The place of an index in a row; a negative one counts from the end. -/
def itemPlace (index : Int64) (length : Nat) : Outcome Fault Nat := do
  let count := (Number.int64? length).getD Int64.maxValue
  let place ← if index < 0 then Number.step (Number.sum? index count) else pure index
  if 0 ≤ place.toInt ∧ place.toInt.toNat < length then return place.toInt.toNat
  else .error .indexOutOfRange

/-- The item of a list or the character of a text at an index. -/
def itemOf (object : Value) (index : Int64) : Outcome Fault Value :=
  match object with
  | .list items => do .itemAt items (← itemPlace index items.length)
  | .string s => do
    let character ← .itemAt s.toList (← itemPlace index s.toList.length)
    return .string (String.singleton character)
  | v => .error (.notSubscriptable v.typeName)

/-- The item of a value at an index, which has to be a whole number or a truth value. -/
def subscript (object index : Value) : Outcome Fault Value :=
  match index with
  | .int i => itemOf object i
  | .bool b => itemOf object (Number.ofBool b)
  | v => .error (.indexType v.typeName)

/-! ### Formulas -/

namespace Expr

variable (maximum : Nat) (context : Context)

mutual

/-- The value of a formula that lies at a depth of a tree no higher than `maximum`. -/
def eval (depth : Nat) (e : Expr) : Outcome Fault Value :=
  if maximum < depth then .error (.tooDeep maximum)
  else match e with
    | .literal v => .ok v
    | .variable name => context.variable name
    | .member object name =>
      match (Expr.member object name).path? with
      | some path => context.path path
      | none => .error .notAFieldPath
    | .arithmetic op left right => do
      let a ← left.eval (depth + 1)
      let b ← right.eval (depth + 1)
      Arithmetic.binary op a b
    | .unary op operand => do
      let a ← operand.eval (depth + 1)
      .ofExcept (Arithmetic.unary op a)
    | .comparison first links => do
      let a ← first.eval (depth + 1)
      evalLinks (depth + 1) a links
    | .logical op left right => do
      let a ← left.eval (depth + 1)
      if a.isTruthy == (op == .or) then return a
      right.eval (depth + 1)
    | .call function arguments =>
      match Builtin.ofName? function with
      | none => .error (.unknownFunction function)
      | some f => do f.call (← evalAll (depth + 1) arguments)
    | .conditional test yes no => do
      let t ← test.eval (depth + 1)
      if t.isTruthy then yes.eval (depth + 1) else no.eval (depth + 1)
    | .list items | .tuple items => do return .list (← evalAll (depth + 1) items)
    | .subscript object index => do
      let a ← object.eval (depth + 1)
      let i ← index.eval (depth + 1)
      Appraisal.subscript a i

/-- The values of several formulas. -/
def evalAll (depth : Nat) : List Expr → Outcome Fault (List Value)
  | [] => .ok []
  | e :: rest => do
    let v ← e.eval depth
    let vs ← evalAll depth rest
    return v :: vs

/-- The value of a comparison chain after its operand `left`: false at the first link that does
not hold. -/
def evalLinks (depth : Nat) (left : Value) : List (Comparison × Expr) → Outcome Fault Value
  | [] => .ok (.bool true)
  | (op, e) :: rest => do
    let right ← e.eval depth
    let holds ← .ofExcept (Arithmetic.compare op left right)
    if holds then evalLinks depth right rest else return .bool false

end

/-- The value of a formula. -/
def value (e : Expr) : Outcome Fault Value := e.eval maximum context 1

/-- A value that a formula for a number may have: a finite number, or a truth value. -/
def finiteNumber (v : Value) : Except Fault Float :=
  match v.number? with
  | none => .error (.notANumber v.typeName)
  | some x => if x.isFinite then .ok x else .error .notFinite

/-- The number that a formula computes. -/
def number (e : Expr) : Outcome Fault Float := do
  let v ← e.value maximum context
  .ofExcept (finiteNumber v)

end Expr

end Appraisal
