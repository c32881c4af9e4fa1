import Appraisal.Condition.Patterns
import Appraisal.Rule.Basic

/-!
# Evaluating rules

A rule whose condition holds runs its actions. A condition or a sum without an outcome leaves the
rule unmatched, with the error in its result. Active rules are evaluated in ascending order, all
of them or up to the first that matches.
-/

namespace Appraisal

/-- Why a rule has no outcome. -/
inductive RuleFailure
  | condition (e : ConditionError)
  | actions (e : ActionError)
  deriving DecidableEq, Inhabited

/-- The message of a failure. -/
def RuleFailure.message : RuleFailure → String
  | condition e => e.message
  | actions e => e.message

namespace Rule

/-- The result of a rule that did not match. -/
def unmatched (r : Rule) : RuleResult := { ruleId := r.id, ruleName := r.name }

/-- The result of a rule without an outcome. -/
def failed (r : Rule) (failure : RuleFailure) : RuleResult :=
  { r.unmatched with error := some ("rule '" ++ r.id ++ "' failed: " ++ failure.message) }

/-- Whether the condition of a rule holds. -/
def isMet (find : Pattern.Find) (context : Context) (r : Rule) : Except ConditionError Bool :=
  match r.condition with
  | none => .ok true
  | some c => c.evalWith find context

/-- The result of a rule whose actions came to `outcome`. -/
def concluded (r : Rule) (outcome : ActionOutcome) : RuleResult :=
  match outcome.error with
  | some e => { r.failed (.actions e) with breakdown := outcome.breakdown }
  | none => { r.unmatched with
      matched := true, adjustment := outcome.total, breakdown := outcome.breakdown }

/-- Evaluate a rule, with patterns found by `find` and the formulas that are `prepared`. -/
def evaluateWith (settings : Settings) (find : Pattern.Find) (prepared : List PreparedFormula)
    (context : Context) (r : Rule) : Except Abort RuleResult :=
  match r.isMet find context with
  | .error e => .ok (r.failed (.condition e))
  | .ok false => .ok r.unmatched
  | .ok true => do return r.concluded (← runActions settings context r.actions prepared)

/-- Evaluate a rule by itself, whether it is active or not. -/
def evaluate (settings : Settings) (context : Context) (r : Rule) : Except Abort RuleResult :=
  r.evaluateWith settings Pattern.compile [] context

/-- Whether one rule may come before another. -/
def precedes (a b : Rule) : Bool := a.order ≤ b.order

end Rule

/-! ### Several rules -/

/-- The results of a list, cut after the first match if `stop` says so. -/
def resultsUntil {α : Type} (evaluate : α → Except Abort RuleResult) (stop : Bool) :
    List α → Except Abort (List RuleResult)
  | [] => .ok []
  | a :: rest => do
    let result ← evaluate a
    if stop && result.matched then return [result]
    return result :: (← resultsUntil evaluate stop rest)

/-- Evaluate the active ones of some rules in ascending order. -/
def evaluateRules (settings : Settings) (stop : Bool) (context : Context) (rules : List Rule) :
    Except Abort (List RuleResult) :=
  let active := (rules.mergeSort Rule.precedes).filter Rule.isActive
  resultsUntil (Rule.evaluate settings context) stop active

end Appraisal
