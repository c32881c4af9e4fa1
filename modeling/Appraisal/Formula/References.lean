import Appraisal.Context.Basic
import Appraisal.Formula.Expr

/-!
# The fields that a formula reads

A variable is read under its name and a chain of names under its dotted path
(`Expr.references`). Two spellings of a path, with points or with underscores between its
segments, name the same field (`flatSpelling`).
-/

namespace Appraisal

/-- The texts of a list in ascending order, each of them once. -/
def sortedSet (texts : List String) : List String :=
  (texts.mergeSort fun a b => decide (a ≤ b)).eraseDups

@[simp] theorem mem_sortedSet {s : String} {texts : List String} :
    s ∈ sortedSet texts ↔ s ∈ texts := by
  rw [sortedSet, List.mem_eraseDups, List.mem_mergeSort]

namespace Expr

mutual

/-- The names of the fields that a formula reads, as often as it names them. -/
def reads : Expr → List String
  | .literal _ => []
  | .variable name => [name]
  | .member object name => ((Expr.member object name).path?).toList
  | .arithmetic _ left right | .logical _ left right => left.reads ++ right.reads
  | .unary _ operand => operand.reads
  | .comparison first links => first.reads ++ readsLinks links
  | .call _ arguments => readsAll arguments
  | .conditional test yes no => yes.reads ++ test.reads ++ no.reads
  | .list items | .tuple items => readsAll items
  | .subscript object index => object.reads ++ index.reads

/-- The fields that several formulas read. -/
def readsAll : List Expr → List String
  | [] => []
  | e :: rest => e.reads ++ readsAll rest

/-- The fields that the operands of a comparison chain read. -/
def readsLinks : List (Comparison × Expr) → List String
  | [] => []
  | (_, e) :: rest => e.reads ++ readsLinks rest

end

/-- The fields that a formula reads, in ascending order. -/
def references (e : Expr) : List String := sortedSet e.reads

end Expr

end Appraisal
