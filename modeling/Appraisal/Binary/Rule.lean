import Appraisal.Binary.Formula
import Appraisal.Rule.Basic

/-!
# Rules as bytes

The codecs of settings, of conditions, actions and rules. The members of each stand in the order
in which they are listed here.
-/

namespace Appraisal

open Binary

namespace Codec

/-! ### Settings -/

/-- The source of a metric. -/
def metricSource : Codec MetricSource :=
  (string.pair float).via (fun (field, divisor) => { field, divisor }) fun m => (m.field, m.divisor)

/-- The settings of an evaluation. -/
def settings : Codec Settings :=
  (word.pair <| word.pair <| metricSource.table.pair <| string.list.pair <| string.pair <|
    string.pair <| string.list.pair string.option).via
  (fun (maxFormulaLength, maxNestingDepth, metrics, priceFields, conditionField, ageField,
      brandFields, modelField) =>
    { maxFormulaLength, maxNestingDepth, metrics, priceFields, conditionField, ageField,
      brandFields, modelField })
  fun s => (s.maxFormulaLength, s.maxNestingDepth, s.metrics, s.priceFields, s.conditionField,
    s.ageField, s.brandFields, s.modelField)

/-! ### Conditions -/

/-- A field type. -/
def fieldType : Codec FieldType := oneOf [.string, .number, .boolean, .enum, .list]

/-- An operator that tests a field. -/
def testOp : Codec TestOp := oneOf [
  .equals, .notEquals, .greaterThan, .greaterThanOrEqual, .lessThan, .lessThanOrEqual, .between,
  .member, .notMember, .contains, .startsWith, .endsWith, .matchesPattern, .isNull, .isNotNull]

/-- A connective of conditions. -/
def connective : Codec Connective := oneOf [.all, .any, .negation]

/-- A test. -/
def test : Codec Test :=
  (string.pair <| fieldType.pair <| testOp.pair value).via
  (fun (field, fieldType, op, operand) => { field, fieldType, op, operand })
  fun t => (t.field, t.fieldType, t.op, t.operand)

mutual

/-- The bytes of a condition. -/
def encodeCondition : Condition → List UInt8
  | .test t => 0 :: test.encode t
  | .group op children =>
    1 :: (connective.encode op ++ compact children.length ++ encodeConditions children)

/-- The bytes of some conditions. -/
def encodeConditions : List Condition → List UInt8
  | [] => []
  | c :: rest => encodeCondition c ++ encodeConditions rest

end

/-- Read a condition. -/
def decodeCondition : (fuel : Nat) → Decoder Condition
  | 0 => failure
  | fuel + 1 => do
    match ← takeCase with
    | 0 => return .test (← test.decode)
    | 1 =>
      return .group (← connective.decode) (← takeMany (decodeCondition fuel) (← takeCompact 8))
    | _ => failure

/-- A condition. -/
def condition : Codec Condition := ⟨encodeCondition, fuelled decodeCondition⟩

/-! ### Actions -/

/-- A kind of action. -/
def actionKind : Codec ActionKind :=
  oneOf [.fixed, .perUnit, .benchmark, .multiplier, .additive, .formula]

/-- The factors of a field. -/
def fieldMultiplier : Codec FieldMultiplier :=
  (string.pair <| float.table.pair float.option).via
  (fun (field, table, default) => { field, table, default })
  fun m => (m.field, m.table, m.default)

/-- A depreciation. -/
def depreciation : Codec Depreciation :=
  (float.pair float).via (fun (ratePerYear, maximum) => { ratePerYear, maximum })
  fun d => (d.ratePerYear, d.maximum)

/-- The modifiers of an action. -/
def modifiers : Codec Modifiers :=
  (fieldMultiplier.list.pair <| float.table.pair <| depreciation.option.pair float.table).via
  (fun (fields, condition, age, brand) => { fields, condition, age, brand })
  fun m => (m.fields, m.condition, m.age, m.brand)

/-- An action. -/
def action : Codec Action :=
  (actionKind.pair <| string.option.pair <| float.option.pair <| string.option.pair <|
    string.option.pair modifiers).via
  (fun (kind, metric, amount, unit, formula, modifiers) =>
    { kind, metric, amount, unit, formula, modifiers })
  fun a => (a.kind, a.metric, a.amount, a.unit, a.formula, a.modifiers)

/-! ### Rules -/

/-- A rule. -/
def rule : Codec Rule :=
  (string.pair <| string.pair <| condition.option.pair <| action.list.pair <|
    bool.pair int32).via
  (fun (id, name, condition, actions, isActive, order) =>
    { id, name, condition, actions, isActive, order })
  fun r => (r.id, r.name, r.condition, r.actions, r.isActive, r.order)

end Codec

end Appraisal
