import Appraisal.Action.Compute

/-!
# Breakdowns

Actions run one after the other, and the failure of one does not touch the others: it stands in
the breakdown in place of its value. Formulas may have been read beforehand (`PreparedFormula`).
-/

namespace Appraisal

/-! ### Prepared formulas -/

/-- The formula of an action, read ahead of evaluation. -/
inductive PreparedFormula
  /-- The action has no formula. -/
  | none
  | parsed (e : Expr)
  | invalid (e : FormulaError)
  deriving Inhabited

/-- Read the formula of an action. -/
def Settings.prepare (settings : Settings) (a : Action) : PreparedFormula :=
  match a.source? with
  | Option.none => .none
  | some source =>
    match Expr.parse settings.limits source with
    | .ok e => .parsed e
    | .error e => .invalid (.ofParse e)

/-- The number that a formula computes on a listing, where it may have been read already. -/
def Settings.preparedValue (settings : Settings) (context : Context) :
    Option PreparedFormula → FormulaValue
  | some (.parsed e), _ =>
    (e.number settings.limits.maxDepth context).mapError fun fault => .formula (.ofFault fault)
  | some (.invalid e), _ => .error (.formula e)
  | _, source => settings.formulaValue context source

/-! ### Entries -/

/-- What an action came to: how its value came about, or the error in its place. -/
structure BreakdownEntry where
  kind : ActionKind
  metric : Option String
  outcome : Except ActionError Details

namespace BreakdownEntry

/-- The value of an action; a failed one counts as zero. -/
def value (e : BreakdownEntry) : Float :=
  match e.outcome with
  | .ok details => details.value
  | .error _ => 0.0

/-- How the value came about. -/
def details? (e : BreakdownEntry) : Option Details := e.outcome.toOption

/-- The message about a failure. -/
def error? (e : BreakdownEntry) : Option String :=
  match e.outcome with
  | .ok _ => none
  | .error e => some e.message

end BreakdownEntry

/-- The entry of an action. -/
def Action.entry (settings : Settings) (formulaValue : FormulaValue) (context : Context)
    (a : Action) : Except Abort BreakdownEntry := do
  let outcome ← (a.details settings formulaValue context).caught
  return { kind := a.kind, metric := a.metric, outcome }

/-- The entries of actions. `prepared` holds their formulas as far as they have been read. -/
def breakdown (settings : Settings) (context : Context) :
    List Action → (prepared : List PreparedFormula) → Except Abort (List BreakdownEntry)
  | [], _ => .ok []
  | a :: rest, prepared => do
    let formulaValue := settings.preparedValue context prepared.head?
    let entry ← a.entry settings formulaValue context
    let entries ← breakdown settings context rest prepared.tail
    return entry :: entries

/-! ### Totals -/

/-- What a list of actions came to. -/
structure ActionOutcome where
  total : Float
  breakdown : List BreakdownEntry
  error : Option ActionError

/-- Add the values up. A sum that is not finite counts as zero and is an error. -/
def ActionOutcome.ofBreakdown (breakdown : List BreakdownEntry) : ActionOutcome :=
  let total := (breakdown.filter fun e => e.details?.isSome).foldl (fun sum e => sum + e.value) 0.0
  if total.isFinite then { total, breakdown, error := none }
  else { total := 0.0, breakdown, error := some .totalNotFinite }

/-- Run actions and add their values up. -/
def runActions (settings : Settings) (context : Context) (actions : List Action)
    (prepared : List PreparedFormula) : Except Abort ActionOutcome := do
  return .ofBreakdown (← breakdown settings context actions prepared)

end Appraisal
