import Appraisal.Json.Record

/-!
# Definitions of rules

The shape of rules in JSON. A definition has all its members in their places, but the names of
operators and kinds in it are still texts that may stand for nothing. A condition is a list of
conditions, a group with a connective, or a test.
-/

namespace Appraisal

/-- The factors of a field as defined. -/
structure FieldMultiplierDefinition where
  field : String
  factors : Table Float
  default : Option Float

/-- A depreciation as defined. -/
structure DepreciationDefinition where
  ratePerYear : Float
  maximum : Float

/-- Modifiers as defined. -/
structure ModifiersDefinition where
  fields : List FieldMultiplierDefinition := []
  condition : Table Float := .empty
  age : Option DepreciationDefinition := none
  brand : Table Float := .empty

/-- An action as defined. -/
structure ActionDefinition where
  kind : String
  metric : Option String := none
  /-- A number or a text that spells one. -/
  amount : Option Json := none
  unit : Option String := none
  formula : Option String := none
  modifiers : Option ModifiersDefinition := none

/-- A condition as defined. -/
inductive ConditionDefinition
  | list (items : List ConditionDefinition)
  | group (connective : String) (items : List ConditionDefinition)
  | test (field : String) (fieldType : Option String) (op : String) (operand : Json)

/-- A rule as defined. -/
structure RuleDefinition where
  id : String
  name : String := ""
  isActive : Bool := true
  order : Int32 := 0
  condition : Option ConditionDefinition := none
  actions : List ActionDefinition := []

open Json (Member record? text? truth? number? int32? optional? list? table?)

/-! ### Modifiers -/

/-- The factors of a field; the field and the factors have to be given. -/
def FieldMultiplierDefinition.ofJson? (j : Json) : Option FieldMultiplierDefinition := do
  let members : List (Member (Option String × Option (Table Float) × Option Float)) := [
    ⟨["field", "field_name"], fun (_, t, d) v => return (some (← text? v), t, d)⟩,
    ⟨["multipliers"], fun (f, _, d) v => return (f, some (← table? number? v), d)⟩,
    ⟨["default"], fun (f, t, _) v => return (f, t, ← optional? number? v)⟩]
  let (field, factors, default) ← record? members (none, none, none) j
  return { field := ← field, factors := ← factors, default }

/-- A depreciation; its rate has to be given. -/
def DepreciationDefinition.ofJson? (j : Json) : Option DepreciationDefinition := do
  let members : List (Member (Option Float × Float)) := [
    ⟨["rate_per_year"], fun (_, m) v => return (some (← number? v), m)⟩,
    ⟨["max_depreciation"], fun (r, _) v => return (r, ← number? v)⟩]
  let (rate, maximum) ← record? members (none, 1.0) j
  return { ratePerYear := ← rate, maximum }

/-- Modifiers. -/
def ModifiersDefinition.ofJson? : Json → Option ModifiersDefinition :=
  record? [
    ⟨["field_multipliers"], fun m v =>
      return { m with fields := ← list? FieldMultiplierDefinition.ofJson? v }⟩,
    ⟨["condition_multipliers"], fun m v => return { m with condition := ← table? number? v }⟩,
    ⟨["age_depreciation"], fun m v =>
      return { m with age := ← optional? DepreciationDefinition.ofJson? v }⟩,
    ⟨["brand_multipliers"], fun m v => return { m with brand := ← table? number? v }⟩] {}

/-! ### Actions -/

/-- An action; its kind has to be given. -/
def ActionDefinition.ofJson? (j : Json) : Option ActionDefinition := do
  let (kind, definition) ← record? members (none, { kind := "" }) j
  return { definition with kind := ← kind }
where
  /-- The members of an action, with the kind apart. -/
  members : List (Member (Option String × ActionDefinition)) := [
    ⟨["action_type"], fun (_, a) v => return (some (← text? v), a)⟩,
    ⟨["metric"], fun (k, a) v => return (k, { a with metric := ← optional? text? v })⟩,
    ⟨["value_usd"], fun (k, a) v => return (k, { a with amount := ← optional? some v })⟩,
    ⟨["unit_type"], fun (k, a) v => return (k, { a with unit := ← optional? text? v })⟩,
    ⟨["formula"], fun (k, a) v => return (k, { a with formula := ← optional? text? v })⟩,
    ⟨["modifiers"], fun (k, a) v =>
      return (k, { a with modifiers := ← optional? ModifiersDefinition.ofJson? v })⟩]

/-! ### Conditions -/

namespace ConditionDefinition

/-- The test that the members of an object define. -/
def testOf? (members : List (String × Json)) : Option ConditionDefinition := do
  let field ← text? (← members.lookup "field_name")
  let fieldType ← optional? text? ((members.lookup "field_type").getD .null)
  let op ← text? (← members.lookup "operator")
  return test field fieldType op ((members.lookup "value").getD .null)

mutual

/-- A list, a group or a test, whichever is the first to fit. -/
def ofJson? : Json → Option ConditionDefinition
  | .array items => (ofItems? items).map list
  | .object members =>
    match (members.lookup "logical_operator").bind text?, ofListed? members with
    | some connective, some items => some (group connective items)
    | _, _ => testOf? members
  | _ => none

/-- The conditions of a list. -/
def ofItems? : List Json → Option (List ConditionDefinition)
  | [] => some []
  | j :: rest => do return (← ofJson? j) :: (← ofItems? rest)

/-- The conditions that the members of a group list. -/
def ofListed? : List (String × Json) → Option (List ConditionDefinition)
  | [] => some []
  | (key, j) :: rest =>
    if key = "conditions" then
      match j with
      | .array items => ofItems? items
      | _ => none
    else ofListed? rest

end

end ConditionDefinition

/-! ### Rules -/

/-- The identity of a rule: a whole number or a text. -/
def ruleId? : Json → Option String
  | .integer n => (Number.int64? n).map Number.decimal
  | .string s => some s
  | _ => none

/-- A rule; its identity has to be given. -/
def RuleDefinition.ofJson? (j : Json) : Option RuleDefinition := do
  let (id, definition) ← record? members (none, { id := "" }) j
  return { definition with id := ← id }
where
  /-- The members of a rule, with the identity apart. -/
  members : List (Member (Option String × RuleDefinition)) := [
    ⟨["id"], fun (_, r) v => return (some (← ruleId? v), r)⟩,
    ⟨["name"], fun (i, r) v => return (i, { r with name := ← text? v })⟩,
    ⟨["is_active"], fun (i, r) v => return (i, { r with isActive := ← truth? v })⟩,
    ⟨["evaluation_order"], fun (i, r) v => return (i, { r with order := ← int32? v })⟩,
    ⟨["conditions"], fun (i, r) v =>
      return (i, { r with condition := ← optional? ConditionDefinition.ofJson? v })⟩,
    ⟨["actions"], fun (i, r) v =>
      return (i, { r with actions := ← list? ActionDefinition.ofJson? v })⟩]

end Appraisal
