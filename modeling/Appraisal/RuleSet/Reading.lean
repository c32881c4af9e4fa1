import Appraisal.Json.Reader
import Appraisal.Json.Writer
import Appraisal.Rule.Definition
import Appraisal.RuleSet.Basic

/-!
# Reading rules and rule sets

Rules come as a list, or as an object with a list of `rules`. All of them have to be well shaped
before any of them is made; then the names and values in each definition have to stand for
something, those of its condition first. A rule set is compiled from the rules that were read.
-/

namespace Appraisal

/-- What a definition may say with a value that cannot be used. -/
inductive DefinedValue
  | operand
  | amount
  deriving DecidableEq, Inhabited

/-- The value in a message. -/
def DefinedValue.text : DefinedValue → String
  | operand => "condition value"
  | amount => "value_usd"

/-- Why rules cannot be read. -/
inductive DefinitionError
  | malformed
  | misshapen
  | notARuleList
  | unknownOperator (rule name : String)
  | unknownActionKind (rule name : String)
  | unknownFieldType (rule name : String)
  | unknownConnective (rule name : String)
  /-- A value that cannot be used, as it is written. -/
  | invalidValue (rule : String) (what : DefinedValue) (found : String)
  deriving DecidableEq, Inhabited

/-- The message of an error. -/
def DefinitionError.message : DefinitionError → String
  | malformed | misshapen => "invalid rule definition JSON"
  | notARuleList => "rule definitions must be an array or an object with a 'rules' array"
  | unknownOperator rule name => "rule '" ++ rule ++ "': unknown operator '" ++ name ++ "'"
  | unknownActionKind rule name => "rule '" ++ rule ++ "': unknown action type '" ++ name ++ "'"
  | unknownFieldType rule name => "rule '" ++ rule ++ "': unknown field type '" ++ name ++ "'"
  | unknownConnective rule name =>
    "rule '" ++ rule ++ "': unknown logical operator '" ++ name ++ "'"
  | invalidValue rule what found =>
    "rule '" ++ rule ++ "': invalid " ++ what.text ++ ": " ++ found

/-- What there is, or else an error. -/
def orError {ε α : Type} (e : ε) : Option α → Except ε α
  | some a => .ok a
  | none => .error e

/-! ### Conditions -/

namespace ConditionDefinition

variable (rule : String)

mutual

/-- The condition of a definition in a rule. -/
def condition : ConditionDefinition → Except DefinitionError Condition
  | list items => do return .group .all (← conditions items)
  | group connective items => do
    let op ← orError (.unknownConnective rule connective) (Connective.ofName? connective)
    return .group op (← conditions items)
  | test field fieldType op operand => do
    let testOp ← orError (.unknownOperator rule op) (TestOp.ofName? op)
    let fieldType ← match fieldType with
      | none => pure .string
      | some name => orError (.unknownFieldType rule name) (FieldType.ofName? name)
    let value ← orError (.invalidValue rule .operand operand.write) (Value.ofJson? operand)
    return .test { field, fieldType, op := testOp, operand := value }

/-- The conditions of several definitions. -/
def conditions : List ConditionDefinition → Except DefinitionError (List Condition)
  | [] => .ok []
  | d :: rest => do return (← d.condition) :: (← conditions rest)

end

end ConditionDefinition

/-! ### Actions -/

/-- The modifiers of a definition. -/
def ModifiersDefinition.modifiers (d : ModifiersDefinition) : Modifiers where
  fields := d.fields.map fun f =>
    { field := f.field, table := Modifiers.keyed f.factors.entries, default := f.default }
  condition := Modifiers.keyed d.condition.entries
  age := d.age.map fun a => { ratePerYear := a.ratePerYear, maximum := a.maximum }
  brand := Modifiers.keyed d.brand.entries

namespace ActionDefinition

/-- The amount of a definition: a number, a truth value or a text that spells a number. -/
def amountValue (rule : String) (d : ActionDefinition) : Except DefinitionError (Option Float) :=
  match d.amount with
  | none => .ok none
  | some j => do
    let amount := (Value.ofJson? j).bind Value.coerceNumber?
    return some (← orError (.invalidValue rule .amount j.write) amount)

/-- The action of a definition in a rule. -/
def action (rule : String) (d : ActionDefinition) : Except DefinitionError Action := do
  let kind ← orError (.unknownActionKind rule d.kind) (ActionKind.ofName? d.kind)
  let amount ← d.amountValue rule
  return { kind, metric := d.metric, amount, unit := d.unit, formula := d.formula,
           modifiers := (d.modifiers.map ModifiersDefinition.modifiers).getD {} }

end ActionDefinition

/-! ### Rules -/

/-- The rule of a definition. -/
def RuleDefinition.rule (d : RuleDefinition) : Except DefinitionError Rule := do
  let condition ← match d.condition with
    | none => pure none
    | some c => some <$> c.condition d.id
  let actions ← d.actions.mapM (ActionDefinition.action d.id)
  return { id := d.id, name := d.name, condition, actions, isActive := d.isActive,
           order := d.order }

namespace Rule

/-- The list of rules in a document. -/
def listOf (document : Json) : Except DefinitionError Json :=
  match document with
  | .array _ => .ok document
  | document => orError .notARuleList (document.field? "rules")

/-- The rules that a JSON text defines, in its order. -/
def readAll (text : String) : Except DefinitionError (List Rule) := do
  let document ← orError .malformed (Json.read? text)
  let definitions ← orError .misshapen (Json.list? RuleDefinition.ofJson? (← listOf document))
  definitions.mapM RuleDefinition.rule

end Rule

/-! ### Rule sets -/

/-- Why a text gives no rule set. -/
inductive LoadError
  | definition (e : DefinitionError)
  | compile (e : CompileError)
  deriving DecidableEq, Inhabited

/-- The message of an error. -/
def LoadError.message : LoadError → String
  | definition e => e.message
  | compile e => e.message

/-- The rule set that a JSON text defines. -/
def RuleSet.read (settings : Settings) (stop : Bool) (text : String) :
    Except LoadError RuleSet := do
  let rules ← (Rule.readAll text).mapError .definition
  (RuleSet.compile settings stop rules).mapError .compile

end Appraisal
