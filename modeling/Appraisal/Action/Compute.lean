import Appraisal.Action.Basic
import Appraisal.Formula.Eval
import Appraisal.Formula.Fault
import Appraisal.Settings

/-!
# The value of an action

An action computes a base value, which then passes through the modifiers that apply to the item:
those of fields, of the condition, of the age and of the model or brand, one after the other. Each
of them multiplies the value and is recorded in one step (`Modifiers.pass`). The details of an
action tell the base and every recorded factor, so their product (`Details.value`) is the value at
the end of the way (`Modifiers.pass_eq`).
-/

namespace Appraisal

/-! ### Errors -/

/-- Why an action has no value. -/
inductive ActionError
  | missingAmount (kind : ActionKind)
  | missingMetric (kind : ActionKind)
  | missingFormula
  /-- No formulas are evaluated here. -/
  | noInterpreter
  | invalidUnit (unit : String)
  | notFinite
  | totalNotFinite
  | formula (e : FormulaError)
  deriving DecidableEq, Inhabited

/-- The message of an error. -/
def ActionError.message : ActionError → String
  | missingAmount kind => kind.name ++ " action has no amount"
  | missingMetric kind => kind.name ++ " action has no metric"
  | missingFormula => "formula action has no formula"
  | noInterpreter => "formula action requires an interpreter"
  | invalidUnit unit => "invalid benchmark unit '" ++ unit ++ "'"
  | notFinite => "action produced a non-finite value"
  | totalNotFinite => "sum of action values is not finite"
  | formula e => e.message

/-! ### Details -/

/-- The stages of modification. -/
inductive Stage
  | field
  | condition
  | age
  | brand
  deriving DecidableEq, Inhabited

/-- The name of a stage. -/
def Stage.name : Stage → String
  | field => "field"
  | condition => "condition"
  | age => "age"
  | brand => "brand"

/-- A factor that applied, with the key that chose it. -/
structure AppliedModifier where
  stage : Stage
  key : String
  multiplier : Float
  deriving Inhabited

/-- How the value of an action came about. -/
structure Details where
  base : Float
  modifiers : List AppliedModifier
  deriving Inhabited

/-- The base times every factor, from left to right. -/
def Details.value (d : Details) : Float :=
  d.modifiers.foldl (fun value m => value * m.multiplier) d.base

/-! ### Reading fields -/

/-- The number in a field. -/
def Context.numberAt? (context : Context) (path : String) : Option Float :=
  (context.lookup? path).bind Value.coerceNumber?

/-- The key for the value of a field that is there. -/
def Context.keyAt? (context : Context) (path : String) : Option String :=
  ((context.lookup? path).filter (!·.isNull)).map fun v => Text.tableKey v.plainText

/-- What a text without its ends stands for in the unit of a benchmark. -/
def unitNumber? (text : List Char) : Option Float :=
  if text = "point".toList ∨ text = "points".toList then some 1.0
  else match Text.dropSuffix? ['k'] text with
    | some thousands => (Number.readFloat? (String.ofList thousands)).map (· * 1000.0)
    | none => Number.readFloat? (String.ofList text)

/-- The number in the unit of a benchmark: in `per_1000_points`, in `per_5k_points`, or by
itself. -/
def unitText (unit : String) : List Char :=
  let text := (Text.lowercase unit).toList
  match Text.dropPrefix? "per_".toList text with
  | none => text
  | some rest =>
    match Text.dropSuffix? "_points".toList rest with
    | some inner => inner
    | none => (Text.dropSuffix? "_point".toList rest).getD rest

/-- How many points make a unit of a benchmark. Without a unit every point counts. -/
def unitDivisor (unit : Option String) : Except ActionError Float :=
  let raw := Text.trim (unit.getD "")
  if raw = "" then .ok 1.0
  else match (unitNumber? (unitText raw)).filter Settings.isUsable with
    | some divisor => .ok divisor
    | none => .error (.invalidUnit raw)

/-! ### Modifiers -/

/-- The factor of a field that is there. -/
def FieldMultiplier.factor (context : Context) (f : FieldMultiplier) : Option AppliedModifier := do
  let key ← context.keyAt? f.field
  let multiplier ← (Modifiers.factor? f.table key).or f.default
  return ⟨.field, key, multiplier⟩

namespace Modifiers

variable (settings : Settings) (context : Context) (m : Modifiers)

/-- The factors of the fields that are there. -/
def fieldFactors : List AppliedModifier := m.fields.filterMap (FieldMultiplier.factor context)

/-- The factor of the condition. -/
def conditionFactor : Option AppliedModifier := do
  let key ← context.keyAt? settings.conditionField
  let multiplier ← factor? m.condition key
  return ⟨.condition, key, multiplier⟩

/-- The factor of the age. -/
def ageFactor : Option AppliedModifier := do
  let depreciation ← m.age
  let years ← context.numberAt? settings.ageField
  return ⟨.age, Number.plain years, depreciation.factor years⟩

/-- The factor of the first of the model and the brands that has one. -/
def brandFactor : Option AppliedModifier :=
  (settings.modelField.toList ++ settings.brandFields).findSome? fun field => do
    let key ← context.keyAt? field
    let multiplier ← factor? m.brand key
    return ⟨.brand, key, multiplier⟩

/-- All factors that apply to an item, in order. -/
def applied : List AppliedModifier :=
  m.fieldFactors context ++ (m.conditionFactor settings context).toList ++
    (m.ageFactor settings context).toList ++ (m.brandFactor settings context).toList

end Modifiers

/-! ### Passing through modifiers -/

/-- A value on its way through modifiers, with the factors that were applied to it. -/
structure Passage where
  value : Float
  applied : List AppliedModifier

namespace Passage

/-- Multiply by a factor and record it. -/
def apply (p : Passage) (m : AppliedModifier) : Passage :=
  ⟨p.value * m.multiplier, p.applied ++ [m]⟩

/-- Multiply by a factor that may not be there. -/
def applyAny (p : Passage) : Option AppliedModifier → Passage
  | some m => p.apply m
  | none => p

theorem applyAny_eq (p : Passage) (m : Option AppliedModifier) :
    p.applyAny m = m.toList.foldl apply p := by
  cases m <;> rfl

/-- What is recorded on the way explains the value. -/
theorem foldl_apply (p : Passage) (ms : List AppliedModifier) :
    ms.foldl apply p =
      ⟨ms.foldl (fun value m => value * m.multiplier) p.value, p.applied ++ ms⟩ := by
  induction ms generalizing p with
  | nil => simp
  | cons m rest ih => simp [ih, apply]

end Passage

namespace Modifiers

/-- The way of a value through the fields, the condition, the age and the model or brand. -/
def pass (settings : Settings) (context : Context) (m : Modifiers) (base : Float) : Passage :=
  let p : Passage := m.fields.foldl (fun p f => p.applyAny (f.factor context)) ⟨base, []⟩
  let p := p.applyAny (m.conditionFactor settings context)
  let p := p.applyAny (m.ageFactor settings context)
  p.applyAny (m.brandFactor settings context)

theorem foldl_fields (context : Context) (fields : List FieldMultiplier) (p : Passage) :
    fields.foldl (fun p f => p.applyAny (f.factor context)) p =
      (fields.filterMap (FieldMultiplier.factor context)).foldl Passage.apply p := by
  induction fields generalizing p with
  | nil => rfl
  | cons f rest ih =>
    rw [List.foldl_cons, ih, List.filterMap_cons]
    cases f.factor context <;> rfl

/-- The way ends with the value that the details have, and with what they record. -/
theorem pass_eq (settings : Settings) (context : Context) (m : Modifiers) (base : Float) :
    m.pass settings context base =
      ⟨Details.value ⟨base, m.applied settings context⟩, m.applied settings context⟩ := by
  -- the whole way is one fold over the factors in their order
  simp only [pass, foldl_fields]
  simp only [Passage.applyAny_eq, ← List.foldl_append, Passage.foldl_apply]
  rfl

end Modifiers

/-! ### Values -/

/-- A way to the number that the source of a formula stands for. -/
abbrev FormulaValue := String → Outcome ActionError Float

/-- The number that a formula computes on a listing, read from its source. -/
def Settings.formulaValue (settings : Settings) (context : Context) : FormulaValue := fun source =>
  match Expr.parse settings.limits source with
  | .error e => .error (.formula (.ofParse e))
  | .ok e =>
    (e.number settings.limits.maxDepth context).mapError fun fault => .formula (.ofFault fault)

namespace Action

/-- The amount, which has to be given. -/
def givenAmount (a : Action) : Outcome ActionError Float :=
  match a.amount with
  | some amount => .ok amount
  | none => .error (.missingAmount a.kind)

/-- The metric, which has to be given. -/
def givenMetric (a : Action) : Outcome ActionError String :=
  match a.metric with
  | some metric => .ok metric
  | none => .error (.missingMetric a.kind)

/-- The value of an action before its modifiers. What is missing in the listing counts as zero. -/
def base (settings : Settings) (formulaValue : FormulaValue) (context : Context) (a : Action) :
    Outcome ActionError Float :=
  match a.kind with
  | .fixed | .additive => a.givenAmount
  | .perUnit => do
    let amount ← a.givenAmount
    let source := settings.metricSource (← a.givenMetric)
    return (context.numberAt? source.field).getD 0.0 / source.divisor * amount
  | .benchmark => do
    let amount ← a.givenAmount
    let score := (context.numberAt? (← a.givenMetric)).getD 0.0
    let divisor ← .ofExcept (unitDivisor a.unit)
    return score / divisor * amount
  | .multiplier =>
    let price := (settings.priceFields.findSome? context.numberAt?).getD 0.0
    .ok (price * a.amount.getD 100.0 / 100.0)
  | .formula =>
    match a.formula with
    | some source => formulaValue source
    | none => .error .missingFormula

/-- How the value of an action comes about; it has to be a finite one. -/
def details (settings : Settings) (formulaValue : FormulaValue) (context : Context) (a : Action) :
    Outcome ActionError Details := do
  let base ← a.base settings formulaValue context
  let passage := a.modifiers.pass settings context base
  if passage.value.isFinite then return ⟨base, passage.applied⟩ else .error .notFinite

end Action

end Appraisal
