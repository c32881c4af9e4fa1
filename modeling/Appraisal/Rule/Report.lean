import Appraisal.Json.Writer
import Appraisal.Rule.Basic

/-!
# Reports

Results and summaries as JSON. The members stand in a fixed order; an error and the details of a
value are left out where there are none.
-/

namespace Appraisal

/-- A member that is there only if it has a value. -/
def Json.memberIfAny {α : Type} (key : String) (f : α → Json) : Option α → List (String × Json)
  | some a => [(key, f a)]
  | none => []

/-- A text or null. -/
def Json.ofText? : Option String → Json
  | some s => .string s
  | none => .null

/-- A factor as JSON. -/
def AppliedModifier.json (m : AppliedModifier) : Json :=
  .object [("stage", .string m.stage.name), ("key", .string m.key),
    ("multiplier", .float m.multiplier)]

/-- Details as JSON. -/
def Details.json (d : Details) : Json :=
  .object [("base_value", .float d.base), ("modifiers", .array (d.modifiers.map (·.json)))]

/-- An entry of a breakdown as JSON. -/
def BreakdownEntry.json (e : BreakdownEntry) : Json :=
  .object <| [("action_type", .string e.kind.name), ("metric", .ofText? e.metric),
      ("value", .float e.value)] ++
    Json.memberIfAny "details" Details.json e.details? ++
    Json.memberIfAny "error" Json.string e.error?

/-- A result as JSON. -/
def RuleResult.json (r : RuleResult) : Json :=
  .object <| [("rule_id", .string r.ruleId), ("rule_name", .string r.ruleName),
      ("matched", .bool r.matched), ("adjustment_value", .float r.adjustment),
      ("breakdown", .array (r.breakdown.map (·.json)))] ++
    Json.memberIfAny "error" Json.string r.error

/-- A rule that contributes as JSON. -/
def MatchedRule.json (r : MatchedRule) : Json :=
  .object [("rule_id", .string r.ruleId), ("rule_name", .string r.ruleName),
    ("adjustment", .float r.adjustment), ("breakdown", .array (r.breakdown.map (·.json)))]

/-- A summary as JSON. -/
def Summary.json (s : Summary) : Json :=
  .object <| [("total_adjustment", .float s.total), ("matched_rules_count", .integer s.count),
      ("matched_rules", .array (s.matched.map (·.json)))] ++
    Json.memberIfAny "error" Json.string s.error

end Appraisal
