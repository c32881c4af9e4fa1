import Appraisal.Binary.Formula
import Appraisal.Proofs.Binary.Codec

/-!
# Stored formulas

The codecs of values and of formula trees restore everything (`restores_value`, `restores_expr`).
Trees are read with fuel, one unit for every level: a part has fewer bytes than its whole, so as
much fuel as there are bytes is enough. Prepared formulas are restored as well, but for errors at
places that no text has (`restores_prepared`).
-/

namespace Appraisal

open Binary

namespace Codec

/-! ### Fuel -/

theorem takes_fuelled {α : Type} {decode : Nat → Decoder α} {bytes : List UInt8} {a : α}
    (h : ∀ fuel, bytes.length ≤ fuel → Takes (decode fuel) bytes a) :
    Takes (fuelled decode) bytes a := by
  intro rest
  refine h _ ?_ rest
  rw [List.length_append]
  omega

/-! ### Values -/

theorem filled_value : value.Filled := by
  intro v
  cases v <;> simp [value, encodeValue]

theorem encodeValues_eq (items : List Value) : encodeValues items = items.flatMap encodeValue := by
  induction items with
  | nil => rfl
  | cons v rest ih => rw [encodeValues, ih, List.flatMap_cons]

theorem takes_value {fuel : Nat} {v : Value} (hfuel : (encodeValue v).length ≤ fuel)
    (hlen : (encodeValue v).length < 2 ^ 64) : Takes (decodeValue fuel) (encodeValue v) v := by
  -- an item of a list has fewer bytes than the list, by the number of the case at least
  induction fuel generalizing v with
  | zero => cases v <;> simp [encodeValue] at hfuel
  | succ fuel ih =>
    cases v with
    | null => exact takes_case (n := 0) (by decide) (takes_pure _)
    | bool b =>
      exact takes_case (n := 1) (by decide)
        ((restores_bool b (by cases b <;> decide)).bind_last (takes_pure _))
    | int i =>
      simp only [encodeValue, List.length_cons] at hlen
      exact takes_case (n := 2) (by decide)
        ((restores_int64 i (by omega)).bind_last (takes_pure _))
    | float v =>
      simp only [encodeValue, List.length_cons] at hlen
      exact takes_case (n := 3) (by decide)
        ((restores_float v (by omega)).bind_last (takes_pure _))
    | string s =>
      simp only [encodeValue, List.length_cons] at hlen
      exact takes_case (n := 4) (by decide)
        ((restores_string s (by omega)).bind_last (takes_pure _))
    | list items =>
      simp only [encodeValue, encodeValues_eq, List.length_cons, List.length_append] at hfuel hlen
      rw [encodeValue, encodeValues_eq]
      refine takes_case (n := 5) (by decide) (takes_counted filled_value (by omega)
        (fun v _ hv => ih (by omega) (by omega)) (takes_pure _))

theorem restores_value (v : Value) : value.Restores v :=
  fun hlen => takes_fuelled fun _ hfuel => takes_value hfuel hlen

/-! ### Trees -/

theorem filled_expr : expr.Filled := by
  intro e
  cases e <;> simp [expr, encodeExpr]

theorem encodeExprs_eq (items : List Expr) : encodeExprs items = items.flatMap encodeExpr := by
  induction items with
  | nil => rfl
  | cons e rest ih => rw [encodeExprs, ih, List.flatMap_cons]

/-- The bytes of a link of a comparison chain. -/
def encodeLink (link : Comparison × Expr) : List UInt8 :=
  comparison.encode link.1 ++ encodeExpr link.2

theorem filled_link (link : Comparison × Expr) : encodeLink link ≠ [] :=
  fun hnil => filled_expr link.2 (List.append_eq_nil_iff.1 hnil).2

theorem encodeLinks_eq (links : List (Comparison × Expr)) :
    encodeLinks links = links.flatMap encodeLink := by
  induction links with
  | nil => rfl
  | cons link rest ih => rw [encodeLinks, ih, List.flatMap_cons, encodeLink]

theorem restores_comparison (op : Comparison) : comparison.Restores op :=
  restores_oneOf (by cases op <;> decide) (by decide)

theorem restores_arithmeticOp (op : ArithmeticOp) : arithmeticOp.Restores op :=
  restores_oneOf (by cases op <;> decide) (by decide)

theorem restores_unaryOp (op : UnaryOp) : unaryOp.Restores op :=
  restores_oneOf (by cases op <;> decide) (by decide)

theorem restores_logicalOp (op : LogicalOp) : logicalOp.Restores op :=
  restores_oneOf (by cases op <;> decide) (by decide)

theorem takes_expr {fuel : Nat} {e : Expr} (hfuel : (encodeExpr e).length ≤ fuel)
    (hlen : (encodeExpr e).length < 2 ^ 64) : Takes (decodeExpr fuel) (encodeExpr e) e := by
  -- a part of a formula has fewer bytes than the whole, so the fuel that is left is enough for it
  induction fuel generalizing e with
  | zero => cases e <;> simp [encodeExpr] at hfuel
  | succ fuel ih =>
    cases e with
    | literal v =>
      simp only [encodeExpr, List.length_cons] at hlen
      exact takes_case (n := 0) (by decide)
        ((restores_value v (by omega)).bind_last (takes_pure _))
    | «variable» name =>
      simp only [encodeExpr, List.length_cons] at hlen
      exact takes_case (n := 1) (by decide)
        ((restores_string name (by omega)).bind_last (takes_pure _))
    | member object name =>
      simp only [encodeExpr, List.length_cons, List.length_append] at hfuel hlen
      refine takes_case (n := 2) (by decide) ((ih (by omega) (by omega)).bind ?_)
      exact (restores_string name (by omega)).bind_last (takes_pure _)
    | arithmetic op left right =>
      simp only [encodeExpr, List.length_cons, List.length_append] at hfuel hlen
      rw [encodeExpr, List.append_assoc]
      refine takes_case (n := 3) (by decide) ((restores_arithmeticOp op (by omega)).bind ?_)
      exact (ih (by omega) (by omega)).bind ((ih (by omega) (by omega)).bind_last (takes_pure _))
    | unary op operand =>
      simp only [encodeExpr, List.length_cons, List.length_append] at hfuel hlen
      refine takes_case (n := 4) (by decide) ((restores_unaryOp op (by omega)).bind ?_)
      exact (ih (by omega) (by omega)).bind_last (takes_pure _)
    | comparison first links =>
      simp only [encodeExpr, encodeLinks_eq, List.length_cons, List.length_append] at hfuel hlen
      rw [encodeExpr, encodeLinks_eq, List.append_assoc]
      refine takes_case (n := 5) (by decide) ((ih (by omega) (by omega)).bind ?_)
      refine takes_counted filled_link (by omega) (fun link _ hlink => ?_)
        (takes_pure _)
      simp only [encodeLink, List.length_append] at hlink ⊢
      refine (restores_comparison link.1 (by omega)).bind ?_
      exact (ih (by omega) (by omega)).bind_last (takes_pure _)
    | logical op left right =>
      simp only [encodeExpr, List.length_cons, List.length_append] at hfuel hlen
      rw [encodeExpr, List.append_assoc]
      refine takes_case (n := 6) (by decide) ((restores_logicalOp op (by omega)).bind ?_)
      exact (ih (by omega) (by omega)).bind ((ih (by omega) (by omega)).bind_last (takes_pure _))
    | call function arguments =>
      simp only [encodeExpr, encodeExprs_eq, List.length_cons, List.length_append] at hfuel hlen
      rw [encodeExpr, encodeExprs_eq, List.append_assoc]
      refine takes_case (n := 7) (by decide) ((restores_string function (by omega)).bind ?_)
      exact takes_counted filled_expr (by omega)
        (fun e _ he => ih (by omega) (by omega)) (takes_pure _)
    | conditional test yes no =>
      simp only [encodeExpr, List.length_cons, List.length_append] at hfuel hlen
      rw [encodeExpr, List.append_assoc]
      refine takes_case (n := 8) (by decide) ((ih (by omega) (by omega)).bind ?_)
      exact (ih (by omega) (by omega)).bind ((ih (by omega) (by omega)).bind_last (takes_pure _))
    | list items =>
      simp only [encodeExpr, encodeExprs_eq, List.length_cons, List.length_append] at hfuel hlen
      rw [encodeExpr, encodeExprs_eq]
      exact takes_case (n := 9) (by decide) (takes_counted filled_expr (by omega)
        (fun e _ he => ih (by omega) (by omega)) (takes_pure _))
    | tuple items =>
      simp only [encodeExpr, encodeExprs_eq, List.length_cons, List.length_append] at hfuel hlen
      rw [encodeExpr, encodeExprs_eq]
      exact takes_case (n := 10) (by decide) (takes_counted filled_expr (by omega)
        (fun e _ he => ih (by omega) (by omega)) (takes_pure _))
    | subscript object index =>
      simp only [encodeExpr, List.length_cons, List.length_append] at hfuel hlen
      refine takes_case (n := 11) (by decide) ((ih (by omega) (by omega)).bind ?_)
      exact (ih (by omega) (by omega)).bind_last (takes_pure _)

theorem restores_expr (e : Expr) : expr.Restores e :=
  fun hlen => takes_fuelled fun _ hfuel => takes_expr hfuel hlen

end Codec

/-! ### Read formulas -/

/-- The place of an error is a number of 64 bits. -/
def FormulaError.IsPlaced (e : FormulaError) : Prop := ∀ place ∈ e.position?, place < 2 ^ 64

/-- A formula that could not be read has an error whose place can be written. -/
def PreparedFormula.IsPlaced : PreparedFormula → Prop
  | .invalid e => e.IsPlaced
  | _ => True

namespace Codec

theorem restores_textError {message : String} {position : Option Nat} {suggestion : Option String}
    (h : ∀ place ∈ position, place < 2 ^ 64) :
    textError.Restores (message, position, suggestion) := by
  refine .pair (restores_string message) (.pair (.option fun place hplace => ?_) (.option ?_))
  · exact restores_nat (h place hplace)
  · exact fun s _ => restores_string s

theorem restores_formulaError {e : FormulaError} (h : e.IsPlaced) : formulaError.Restores e := by
  intro hlen
  cases e with
  | malformed message position suggestion =>
    have htext : textError.Restores (message, position, suggestion) := restores_textError h
    simp only [formulaError, List.length_cons] at hlen
    exact takes_case (n := 0) (by decide) ((htext (by omega)).bind_last (takes_pure _))
  | refused message position suggestion =>
    have htext : textError.Restores (message, position, suggestion) := restores_textError h
    simp only [formulaError, List.length_cons] at hlen
    exact takes_case (n := 1) (by decide) ((htext (by omega)).bind_last (takes_pure _))
  | undefined name available =>
    simp only [formulaError, List.length_cons, List.length_append] at hlen
    refine takes_case (n := 2) (by decide) ((restores_string name (by omega)).bind ?_)
    have hlist := Restores.list filled_string fun s (_ : s ∈ available) => restores_string s
    exact (hlist (by omega)).bind_last (takes_pure _)
  | evaluation message =>
    simp only [formulaError, List.length_cons] at hlen
    exact takes_case (n := 3) (by decide)
      ((restores_string message (by omega)).bind_last (takes_pure _))

theorem filled_prepared : prepared.Filled := by
  intro f
  cases f <;> simp [prepared]

theorem restores_prepared {f : PreparedFormula} (h : f.IsPlaced) : prepared.Restores f := by
  intro hlen
  cases f with
  | none => exact takes_case (n := 0) (by decide) (takes_pure _)
  | parsed e =>
    simp only [prepared, List.length_cons] at hlen
    exact takes_case (n := 1) (by decide)
      ((restores_expr e (by omega)).bind_last (takes_pure _))
  | invalid e =>
    simp only [prepared, List.length_cons] at hlen
    exact takes_case (n := 2) (by decide)
      ((restores_formulaError h (by omega)).bind_last (takes_pure _))

end Codec

end Appraisal
