import Appraisal.Formula.Builtin
import Appraisal.Formula.Complaint
import Appraisal.Formula.Expr
import Appraisal.Formula.Lexer
import Appraisal.Formula.Parser

/-!
# From source to formula

A source becomes a formula in three steps: its tokens, their phrase, and the formula that the
language allows it to be (`Expr.parse`). `Limits` bound the length of the source and the height of
the tree.

The walk from a phrase to a formula (`Phrase.check`) refuses names that begin with two underscores,
attributes of anything but a field path, and calls of anything but a known function with plain
arguments, as many as the function takes.
-/

namespace Appraisal

/-! ### What the language allows -/

/-- Names that begin with two underscores are reserved. -/
def isReserved (name : String) : Bool :=
  match name.toList with
  | '_' :: '_' :: _ => true
  | _ => false

/-- The function that a phrase names, where it may be called. -/
def Phrase.callee (position : Nat) : Phrase → Except ParseError Builtin
  | .name _ s =>
    if isReserved s then .error ⟨.reservedName s, position⟩
    else match Builtin.ofName? s with
      | some f => .ok f
      | none => .error ⟨.unknownFunction s, position⟩
  | .member _ _ s => .error ⟨.methodCall s, position⟩
  | _ => .error ⟨.unnamedCallee, position⟩

mutual

/-- The formula of a phrase, if the language allows it. -/
def Phrase.check : Phrase → Except ParseError Expr
  | .literal _ v => .ok (.literal v)
  | .name position s =>
    if isReserved s then .error ⟨.reservedName s, position⟩ else .ok (.variable s)
  | .member position object s =>
    if isReserved s then .error ⟨.reservedAttribute s, position⟩
    else do
      let object ← object.check
      match object.path? with
      | none => throw ⟨.attributeOfValue s, position⟩
      | some _ => return .member object s
  | .arithmetic _ op left right => return .arithmetic op (← left.check) (← right.check)
  | .unary _ op operand => return .unary op (← operand.check)
  | .comparison _ first links => return .comparison (← first.check) (← checkLinks links)
  | .logical _ op left right => return .logical op (← left.check) (← right.check)
  | .call position callee arguments => do
    let f ← callee.callee position
    let arguments ← checkArguments arguments
    if f.accepts arguments.length then return .call f.name arguments
    else throw ⟨.wrongCount f.name f.arityText arguments.length, position⟩
  | .conditional _ test yes no =>
    return .conditional (← test.check) (← yes.check) (← no.check)
  | .list _ items => return .list (← checkAll items)
  | .tuple _ items => return .tuple (← checkAll items)
  | .subscript _ object index => return .subscript (← object.check) (← index.check)

/-- The formulas of several phrases. -/
def Phrase.checkAll : List Phrase → Except ParseError (List Expr)
  | [] => .ok []
  | e :: rest => return (← e.check) :: (← checkAll rest)

/-- The links of a comparison chain. -/
def Phrase.checkLinks : List (Comparison × Phrase) → Except ParseError (List (Comparison × Expr))
  | [] => .ok []
  | (op, e) :: rest => return (op, ← e.check) :: (← checkLinks rest)

/-- The arguments of a call, all of which have to be positional. -/
def Phrase.checkArguments : List (Argument Phrase) → Except ParseError (List Expr)
  | [] => .ok []
  | .positional e :: rest => return (← e.check) :: (← checkArguments rest)
  | .keyword s position :: _ => .error ⟨.keywordArgument s, position⟩
  | .unpacked position :: _ => .error ⟨.unpackedArgument, position⟩

end

/-! ### Whole sources -/

/-- Bounds on formulas. -/
structure Limits where
  /-- The greatest number of characters of a source. -/
  maxLength : Nat := 10000
  /-- The greatest height of a formula. -/
  maxDepth : Nat := 64
  deriving DecidableEq

/-- The formula of a source within the limits. -/
def Expr.parse (limits : Limits) (source : String) : Except ParseError Expr := do
  let characters := source.toList
  let length := characters.length
  if limits.maxLength < length then
    throw ⟨.tooLong length limits.maxLength, limits.maxLength⟩
  let tokens ← Lexer.tokenize characters
  let phrase ← Parser.parse limits.maxDepth tokens
  let e ← phrase.check
  if limits.maxDepth < e.depth then throw ⟨.treeTooHigh limits.maxDepth, 0⟩
  return e

end Appraisal
