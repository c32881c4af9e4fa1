import Appraisal.Rule.Evaluate

/-!
# Rule sets

A rule set holds rules in evaluation order, with their formulas read and their patterns compiled
(`RuleSet.compile`). Rules need distinct identities that are not blank, and valid patterns; a
formula that cannot be read becomes an error of its action when that runs.
-/

namespace Appraisal

/-- A rule with its formulas read and its patterns compiled. -/
structure CompiledRule where
  rule : Rule
  /-- The formulas of the actions, in their order. -/
  formulas : List PreparedFormula
  patterns : Patterns
  deriving Inhabited

/-- Rules that are ready to be evaluated, in ascending order. -/
structure RuleSet where
  settings : Settings
  rules : List CompiledRule
  /-- Whether evaluation ends after the first match. -/
  stopsOnFirstMatch : Bool
  deriving Inhabited

/-! ### Compiling -/

/-- Why rules do not make a rule set. -/
inductive CompileError
  | duplicateId (id : String)
  | blankId (name : String)
  | invalidPattern (ruleId : String) (e : ConditionError)
  deriving DecidableEq, Inhabited

/-- The message of an error. -/
def CompileError.message : CompileError → String
  | duplicateId id => "duplicate rule id '" ++ id ++ "'"
  | blankId name => "rule '" ++ name ++ "' has an empty id"
  | invalidPattern ruleId e => "rule '" ++ ruleId ++ "': " ++ e.message

namespace Rule

/-- Whether the identity of a rule is blank. -/
def isAnonymous (r : Rule) : Bool := Text.trim r.id == ""

/-- Identities may not be blank and may not repeat; `seen` holds the earlier ones. -/
def checkIds (seen : List String) : List Rule → Except CompileError Unit
  | [] => .ok ()
  | r :: rest =>
    if r.isAnonymous then .error (.blankId r.name)
    else if seen.contains r.id then .error (.duplicateId r.id)
    else checkIds (r.id :: seen) rest

/-- The compiled patterns of a rule. -/
def patterns (r : Rule) : Except CompileError Patterns :=
  match r.condition with
  | none => .ok .empty
  | some c => (Patterns.ofCondition c).mapError (.invalidPattern r.id)

/-- Read the formulas of a rule and compile its patterns. -/
def compile (settings : Settings) (r : Rule) : Except CompileError CompiledRule := do
  return { rule := r, formulas := r.actions.map settings.prepare, patterns := ← r.patterns }

end Rule

namespace RuleSet

/-- The rule set of some rules. -/
def compile (settings : Settings) (stop : Bool) (rules : List Rule) :
    Except CompileError RuleSet := do
  Rule.checkIds [] rules
  let rules ← (rules.mergeSort Rule.precedes).mapM (Rule.compile settings)
  return { settings, rules, stopsOnFirstMatch := stop }

/-! ### Evaluating -/

end RuleSet

/-- Evaluate a compiled rule. -/
def CompiledRule.evaluate (settings : Settings) (context : Context) (c : CompiledRule) :
    Except Abort RuleResult :=
  c.rule.evaluateWith settings c.patterns.find c.formulas context

namespace RuleSet

variable (s : RuleSet)

/-- The results of the active rules on an item. -/
def evaluate (context : Context) : Except Abort (List RuleResult) :=
  resultsUntil (CompiledRule.evaluate s.settings context) s.stopsOnFirstMatch
    (s.rules.filter fun c => c.rule.isActive)

/-- The total adjustment of an item. -/
def summary (context : Context) : Except Abort Summary := do
  return .ofResults (← s.evaluate context)

/-! ### Looking in -/

/-- The rules in evaluation order. -/
def sources : List Rule := s.rules.map CompiledRule.rule

/-- The identities of the rules in evaluation order. -/
def evaluationOrder : List String := s.sources.map Rule.id

/-- The rule with an identity. -/
def get? (id : String) : Option Rule := s.sources.find? fun r => r.id == id

/-- The number of rules. -/
def size : Nat := s.rules.length

/-- Whether there are no rules. -/
def isEmpty : Bool := s.rules.isEmpty

/-- The errors among formulas, each with its place; `first` is the place of the first one. -/
def invalidFrom (first : Nat) : List PreparedFormula → List (Nat × FormulaError)
  | [] => []
  | .invalid e :: rest => (first, e) :: invalidFrom (first + 1) rest
  | _ :: rest => invalidFrom (first + 1) rest

/-- The formulas that cannot be read, each with its rule and the place of its action. -/
def invalidFormulas : List (String × Nat × FormulaError) :=
  s.rules.flatMap fun c => (invalidFrom 0 c.formulas).map fun (place, e) => (c.rule.id, place, e)

/-- The rule set in words. -/
def text : String :=
  let active := s.rules.countP fun c => c.rule.isActive
  let actions := actionTotal s.sources
  "RuleSet(" ++ s.size.repr ++ " rules, " ++ active.repr ++ " active, " ++ actions.repr ++
    " actions)"

end RuleSet

end Appraisal
