import Appraisal.Formula.Parse
import Appraisal.Json.Stream
import Appraisal.Text.Lowercase

/-!
# Settings

The limits on formulas and the names of the fields that actions read. Settings that are read from
JSON replace the standard ones member by member and have to be usable (`Settings.check`).
-/

namespace Appraisal

/-- Where a metric finds its quantity: a field, and what its value is divided by. -/
structure MetricSource where
  field : String
  divisor : Float
  deriving Inhabited

/-- The settings of an evaluation. -/
structure Settings where
  maxFormulaLength : UInt64
  maxNestingDepth : UInt64
  /-- The sources of metrics, under their names in small letters. -/
  metrics : Table MetricSource
  /-- The fields that may hold the current price, the first one that does counting. -/
  priceFields : List String
  conditionField : String
  ageField : String
  /-- The fields that may hold the brand. -/
  brandFields : List String
  /-- The field of the model, which is asked before the brand. -/
  modelField : Option String

namespace Settings

/-- The metrics known without any settings. -/
def standardMetrics : Table MetricSource := .ofList [
  ("per_gb", ⟨"ram_gb", 1.0⟩),
  ("ram_gb", ⟨"ram_gb", 1.0⟩),
  ("per_core", ⟨"cpu.cores", 1.0⟩),
  ("per_thread", ⟨"cpu.threads", 1.0⟩),
  ("per_tb", ⟨"storage.primary.capacity_gb", 1000.0⟩),
  ("primary_storage_tb", ⟨"storage.primary.capacity_gb", 1000.0⟩),
  ("secondary_storage_tb", ⟨"storage.secondary.capacity_gb", 1000.0⟩)]

/-- The settings without any changes. -/
def standard : Settings where
  maxFormulaLength := 10000
  maxNestingDepth := 64
  metrics := standardMetrics
  priceFields := ["adjusted_price", "price_usd"]
  conditionField := "condition"
  ageField := "age_years"
  brandFields := ["manufacturer", "brand"]
  modelField := some "model"

instance : Inhabited Settings := ⟨standard⟩

/-- The limits on formulas. -/
def limits (s : Settings) : Limits where
  maxLength := s.maxFormulaLength.toNat
  maxDepth := s.maxNestingDepth.toNat

/-- The source of a metric. One without an entry is the name of a field. -/
def metricSource (s : Settings) (metric : String) : MetricSource :=
  (s.metrics.get? (Text.tableKey metric)).getD ⟨metric, 1.0⟩

end Settings

/-! ### Checking -/

/-- Why settings are refused. -/
inductive SettingsError
  | unreadable (e : Json.ReadError)
  | zeroFormulaLength
  | zeroNestingDepth
  | unusableDivisor (metric : String) (divisor : Float)

/-- The message of an error, other than one of the text. -/
def SettingsError.message : SettingsError → String
  | unreadable _ => "invalid config JSON"
  | zeroFormulaLength => "invalid config: max_formula_length must be positive"
  | zeroNestingDepth => "invalid config: max_nesting_depth must be positive"
  | unusableDivisor metric divisor =>
    "invalid config: metric '" ++ metric ++ "' has an unusable divisor " ++ Number.plain divisor

namespace Settings

/-- Whether a quantity can be divided by a number. -/
def isUsable (divisor : Float) : Bool := divisor.isFinite && divisor != 0.0

/-- Limits have to be positive and divisors usable. -/
def check (s : Settings) : Except SettingsError Unit :=
  if s.maxFormulaLength = 0 then .error .zeroFormulaLength
  else if s.maxNestingDepth = 0 then .error .zeroNestingDepth
  else match s.metrics.entries.find? fun entry => !isUsable entry.2.divisor with
    | some (metric, source) => .error (.unusableDivisor metric source.divisor)
    | none => .ok ()

/-! ### Reading -/

open Json (Reading)

/-- The source of a metric in JSON. -/
def readMetricSource : Reading MetricSource := do
  let (field, divisor) ← Reading.record [
    ⟨"field", fun (_, divisor) => return (some (← Reading.string), divisor)⟩,
    ⟨"divisor", fun (field, _) => return (field, ← Reading.number)⟩] (none, 1.0)
  match field with
  | some field => return { field, divisor }
  | none => throw .misshapen

/-- The members of settings in JSON. -/
def jsonMembers : List (Reading.Member Settings) := [
  ⟨"max_formula_length", fun s => return { s with maxFormulaLength := ← Reading.natural }⟩,
  ⟨"max_nesting_depth", fun s => return { s with maxNestingDepth := ← Reading.natural }⟩,
  ⟨"metric_fields", fun s => return { s with metrics := ← Reading.table readMetricSource }⟩,
  ⟨"price_fields", fun s => return { s with priceFields := ← Reading.list Reading.string }⟩,
  ⟨"condition_field", fun s => return { s with conditionField := ← Reading.string }⟩,
  ⟨"age_field", fun s => return { s with ageField := ← Reading.string }⟩,
  ⟨"brand_fields", fun s => return { s with brandFields := ← Reading.list Reading.string }⟩,
  ⟨"model_field", fun s => return { s with modelField := ← Reading.optionalString }⟩]

/-- The settings that a JSON text holds. -/
def read (text : String) : Except SettingsError Settings := do
  let s ← ((Reading.record jsonMembers standard).whole text).mapError .unreadable
  s.check
  return s

end Settings

end Appraisal
