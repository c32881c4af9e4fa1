import Appraisal.Action.Breakdown
import Appraisal.Binary.Codec

/-!
# Formulas as bytes

The codecs of values, of formula trees and of formulas that have been read. Trees are read with
as much fuel as there are bytes, which is enough, since every part of a tree takes at least one.
-/

namespace Appraisal

open Binary

namespace Codec

/-- An operator of comparison. -/
def comparison : Codec Comparison := oneOf [.eq, .ne, .gt, .ge, .lt, .le]

/-- An operator of arithmetic. -/
def arithmeticOp : Codec ArithmeticOp := oneOf [.add, .sub, .mul, .div, .floorDiv, .mod, .pow]

/-- An operator with one operand. -/
def unaryOp : Codec UnaryOp := oneOf [.neg, .pos, .not]

/-- A connective of formulas. -/
def logicalOp : Codec LogicalOp := oneOf [.and, .or]

/-- Run a decoder that needs fuel with as much as there are bytes, and some more. -/
def fuelled {α : Type} (decode : (fuel : Nat) → Decoder α) : Decoder α := fun bytes =>
  decode (bytes.length + 1) bytes

/-! ### Values -/

mutual

/-- The bytes of a value. -/
def encodeValue : Value → List UInt8
  | .null => [0]
  | .bool b => 1 :: bool.encode b
  | .int i => 2 :: int64.encode i
  | .float v => 3 :: float.encode v
  | .string s => 4 :: string.encode s
  | .list items => 5 :: (compact items.length ++ encodeValues items)

/-- The bytes of some values. -/
def encodeValues : List Value → List UInt8
  | [] => []
  | v :: rest => encodeValue v ++ encodeValues rest

end

/-- Read a value. -/
def decodeValue : (fuel : Nat) → Decoder Value
  | 0 => failure
  | fuel + 1 => do
    match ← takeCase with
    | 0 => return .null
    | 1 => return .bool (← bool.decode)
    | 2 => return .int (← int64.decode)
    | 3 => return .float (← float.decode)
    | 4 => return .string (← string.decode)
    | 5 => return .list (← takeMany (decodeValue fuel) (← takeCompact 8))
    | _ => failure

/-- A value. -/
def value : Codec Value := ⟨encodeValue, fuelled decodeValue⟩

/-! ### Trees -/

mutual

/-- The bytes of a formula. -/
def encodeExpr : Expr → List UInt8
  | .literal v => 0 :: value.encode v
  | .variable name => 1 :: string.encode name
  | .member object name => 2 :: (encodeExpr object ++ string.encode name)
  | .arithmetic op left right =>
    3 :: (arithmeticOp.encode op ++ encodeExpr left ++ encodeExpr right)
  | .unary op operand => 4 :: (unaryOp.encode op ++ encodeExpr operand)
  | .comparison first links =>
    5 :: (encodeExpr first ++ compact links.length ++ encodeLinks links)
  | .logical op left right => 6 :: (logicalOp.encode op ++ encodeExpr left ++ encodeExpr right)
  | .call function arguments =>
    7 :: (string.encode function ++ compact arguments.length ++ encodeExprs arguments)
  | .conditional test yes no => 8 :: (encodeExpr test ++ encodeExpr yes ++ encodeExpr no)
  | .list items => 9 :: (compact items.length ++ encodeExprs items)
  | .tuple items => 10 :: (compact items.length ++ encodeExprs items)
  | .subscript object index => 11 :: (encodeExpr object ++ encodeExpr index)

/-- The bytes of some formulas. -/
def encodeExprs : List Expr → List UInt8
  | [] => []
  | e :: rest => encodeExpr e ++ encodeExprs rest

/-- The bytes of the links of a comparison chain. -/
def encodeLinks : List (Comparison × Expr) → List UInt8
  | [] => []
  | (op, e) :: rest => comparison.encode op ++ encodeExpr e ++ encodeLinks rest

end

/-- Read a formula. -/
def decodeExpr : (fuel : Nat) → Decoder Expr
  | 0 => failure
  | fuel + 1 => do
    match ← takeCase with
    | 0 => return .literal (← value.decode)
    | 1 => return .variable (← string.decode)
    | 2 => return .member (← decodeExpr fuel) (← string.decode)
    | 3 => return .arithmetic (← arithmeticOp.decode) (← decodeExpr fuel) (← decodeExpr fuel)
    | 4 => return .unary (← unaryOp.decode) (← decodeExpr fuel)
    | 5 =>
      let first ← decodeExpr fuel
      let link := do return (← comparison.decode, ← decodeExpr fuel)
      return .comparison first (← takeMany link (← takeCompact 8))
    | 6 => return .logical (← logicalOp.decode) (← decodeExpr fuel) (← decodeExpr fuel)
    | 7 => return .call (← string.decode) (← takeMany (decodeExpr fuel) (← takeCompact 8))
    | 8 => return .conditional (← decodeExpr fuel) (← decodeExpr fuel) (← decodeExpr fuel)
    | 9 => return .list (← takeMany (decodeExpr fuel) (← takeCompact 8))
    | 10 => return .tuple (← takeMany (decodeExpr fuel) (← takeCompact 8))
    | 11 => return .subscript (← decodeExpr fuel) (← decodeExpr fuel)
    | _ => failure

/-- A formula. -/
def expr : Codec Expr := ⟨encodeExpr, fuelled decodeExpr⟩

/-! ### Read formulas -/

/-- The parts of an error in the text of a formula: its message, its place and a suggestion. -/
def textError : Codec (String × Option Nat × Option String) :=
  string.pair (nat.option.pair string.option)

/-- An error of a formula. -/
def formulaError : Codec FormulaError where
  encode
    | .malformed message position suggestion =>
      0 :: textError.encode (message, position, suggestion)
    | .refused message position suggestion => 1 :: textError.encode (message, position, suggestion)
    | .undefined name available => 2 :: (string.encode name ++ string.list.encode available)
    | .evaluation message => 3 :: string.encode message
  decode := do
    match ← takeCase with
    | 0 =>
      let (message, position, suggestion) ← textError.decode
      return .malformed message position suggestion
    | 1 =>
      let (message, position, suggestion) ← textError.decode
      return .refused message position suggestion
    | 2 => return .undefined (← string.decode) (← string.list.decode)
    | 3 => return .evaluation (← string.decode)
    | _ => failure

/-- A formula that has been read. -/
def prepared : Codec PreparedFormula where
  encode
    | .none => [0]
    | .parsed e => 1 :: expr.encode e
    | .invalid e => 2 :: formulaError.encode e
  decode := do
    match ← takeCase with
    | 0 => return .none
    | 1 => return .parsed (← expr.decode)
    | 2 => return .invalid (← formulaError.decode)
    | _ => failure

end Codec

end Appraisal
