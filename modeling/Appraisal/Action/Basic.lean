import Appraisal.Action.Modifiers

/-!
# Actions

An action of a rule computes a value: a fixed amount, a price per unit or per benchmark point, a
share of the current price, or what a formula says. Modifiers then apply to it.
-/

namespace Appraisal

/-- How an action computes its value. -/
inductive ActionKind
  /-- The amount. -/
  | fixed
  /-- The quantity of a metric times the amount. -/
  | perUnit
  /-- The score of a benchmark over its unit, times the amount. -/
  | benchmark
  /-- As many percent of the current price as the amount says. -/
  | multiplier
  /-- The amount, up or down. -/
  | additive
  | formula
  deriving DecidableEq, Inhabited

namespace ActionKind

/-- The canonical name of a kind. -/
def name : ActionKind → String
  | fixed => "fixed_value"
  | perUnit => "per_unit"
  | benchmark => "benchmark_based"
  | multiplier => "multiplier"
  | additive => "additive"
  | formula => "formula"

/-- The kind that a name stands for. -/
def ofName? (s : String) : Option ActionKind :=
  match Text.nameKey s with
  | "fixed_value" | "fixed" => some fixed
  | "per_unit" => some perUnit
  | "benchmark_based" | "benchmark" => some benchmark
  | "multiplier" | "percentage" => some multiplier
  | "additive" => some additive
  | "formula" => some formula
  | _ => none

end ActionKind

/-- A step of a rule that computes a value. -/
structure Action where
  kind : ActionKind
  metric : Option String := none
  amount : Option Float := none
  unit : Option String := none
  formula : Option String := none
  modifiers : Modifiers := {}
  deriving Inhabited

namespace Action

/-- A fixed amount. -/
def ofAmount (amount : Float) : Action := { kind := .fixed, amount := some amount }

/-- An amount up or down. -/
def adding (amount : Float) : Action := { kind := .additive, amount := some amount }

/-- An amount for every unit of a metric. -/
def perUnit (metric : String) (amount : Float) : Action :=
  { kind := .perUnit, metric := some metric, amount := some amount }

/-- An amount for every unit of a benchmark score. -/
def benchmark (metric unit : String) (amount : Float) : Action :=
  { kind := .benchmark, metric := some metric, amount := some amount, unit := some unit }

/-- A share of the current price; all of it, if no percentage is given. -/
def ofPrice (percent : Option Float) : Action := { kind := .multiplier, amount := percent }

/-- What a formula computes. -/
def ofFormula (source : String) : Action := { kind := .formula, formula := some source }

/-- The source of the formula, if the action is one that needs it. -/
def source? (a : Action) : Option String := if a.kind = .formula then a.formula else none

end Action

end Appraisal
