import Appraisal.Formula.Operator
import Appraisal.Value.Compare

/-!
# Phrases

The tree of a formula as its text groups it, before it is checked for what the language allows.
Anything may be called, and with any kind of argument, so that a refusal can point at the place.
Every phrase carries the number of characters before its first one.
-/

namespace Appraisal

/-- An argument of a call. Arguments by keyword and unpacked ones are refused later, so their
values are not kept. -/
inductive Argument (α : Type)
  | positional (value : α)
  | keyword (name : String) (position : Nat)
  | unpacked (position : Nat)

/-- A formula as its text groups it. -/
inductive Phrase
  | literal (position : Nat) (value : Value)
  | name (position : Nat) (name : String)
  | member (position : Nat) (object : Phrase) (name : String)
  | arithmetic (position : Nat) (op : ArithmeticOp) (left right : Phrase)
  | unary (position : Nat) (op : UnaryOp) (operand : Phrase)
  | comparison (position : Nat) (first : Phrase) (links : List (Comparison × Phrase))
  | logical (position : Nat) (op : LogicalOp) (left right : Phrase)
  | call (position : Nat) (callee : Phrase) (arguments : List (Argument Phrase))
  | conditional (position : Nat) (test yes no : Phrase)
  | list (position : Nat) (items : List Phrase)
  | tuple (position : Nat) (items : List Phrase)
  | subscript (position : Nat) (object index : Phrase)
  deriving Inhabited

namespace Phrase

/-- Where a phrase begins. -/
def position : Phrase → Nat
  | literal p _ | name p _ | member p _ _ | arithmetic p _ _ _ | unary p _ _
  | comparison p _ _ | logical p _ _ _ | call p _ _ | conditional p _ _ _ | list p _ | tuple p _
  | subscript p _ _ => p

/-- The same phrase, said to begin at `p`. -/
def startingAt (p : Nat) : Phrase → Phrase
  | literal _ v => literal p v
  | name _ s => name p s
  | member _ object s => member p object s
  | arithmetic _ op left right => arithmetic p op left right
  | unary _ op operand => unary p op operand
  | comparison _ first links => comparison p first links
  | logical _ op left right => logical p op left right
  | call _ callee arguments => call p callee arguments
  | conditional _ test yes no => conditional p test yes no
  | list _ items => list p items
  | tuple _ items => tuple p items
  | subscript _ object index => subscript p object index

end Phrase

end Appraisal
