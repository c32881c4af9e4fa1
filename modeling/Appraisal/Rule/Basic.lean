import Appraisal.Action.Breakdown
import Appraisal.Condition.Basic

/-!
# Rules and their results

A rule computes the values of its actions for every item that meets its condition. Rules apply in
ascending order; those of one order apply as they are listed. A result is what a rule came to on an
item; it contributes to the total of several rules if the rule matched without an error.
-/

namespace Appraisal

/-! ### Rules -/

/-- A condition and the actions for what meets it. A rule without a condition is always met. -/
structure Rule where
  id : String
  name : String
  condition : Option Condition := none
  actions : List Action := []
  isActive : Bool := true
  order : Int32 := 0
  deriving Inhabited

/-- The number of actions of some rules. -/
def actionTotal (rules : List Rule) : Nat :=
  rules.foldr (fun r total => r.actions.length + total) 0

/-! ### Results -/

/-- What a rule came to. -/
structure RuleResult where
  ruleId : String
  ruleName : String
  matched : Bool := false
  adjustment : Float := 0.0
  breakdown : List BreakdownEntry := []
  /-- Why the rule has no outcome. -/
  error : Option String := none

/-- Whether a result counts toward the total. -/
def RuleResult.contributes (r : RuleResult) : Bool := r.matched && r.error.isNone

/-- A rule that contributes, in a summary. -/
structure MatchedRule where
  ruleId : String
  ruleName : String
  adjustment : Float
  breakdown : List BreakdownEntry

/-- What a result contributes. -/
def RuleResult.contribution (r : RuleResult) : MatchedRule where
  ruleId := r.ruleId
  ruleName := r.ruleName
  adjustment := r.adjustment
  breakdown := r.breakdown

/-- The total adjustment of an item and where it comes from. -/
structure Summary where
  total : Float
  matched : List MatchedRule
  error : Option String

namespace Summary

/-- The number of rules that contribute. -/
def count (s : Summary) : Nat := s.matched.length

/-- The message about a total that is not finite. -/
def overflowMessage : String := "sum of matched rule adjustments is not finite"

/-- Add up the adjustments of the rules that contribute. Nothing adds up to a negative zero, which
leaves every number as it is; a sum that is not finite counts as zero and is an error. -/
def ofResults (results : List RuleResult) : Summary :=
  let matched := (results.filter RuleResult.contributes).map RuleResult.contribution
  let total := matched.foldl (fun sum r => sum + r.adjustment) (-0.0)
  if total.isFinite then { total, matched, error := none }
  else { total := 0.0, matched, error := some overflowMessage }

/-- A summary in words. -/
def text (s : Summary) : String :=
  let rules := s.matched.map fun r => r.ruleName ++ " = " ++ Number.plain r.adjustment
  "total_adjustment: " ++ Number.plain s.total ++ ", matched: [" ++ Text.join ", " rules ++ "]"

end Summary

end Appraisal
