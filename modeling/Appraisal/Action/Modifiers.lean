import Appraisal.Table
import Appraisal.Text.Lowercase

/-!
# Modifiers

What the value of an action may be multiplied by: factors chosen by the value of a field, by the
condition, by the age and by the model or brand of an item. Keys of tables match whatever their
case (`Modifiers.factor?`).
-/

namespace Appraisal

namespace Number

/-- The larger of two numbers. A NaN gives way to the other number. -/
def larger (x y : Float) : Float :=
  if x.isNaN then y else if y.isNaN then x else if x < y then y else x

/-- The smaller of two numbers. A NaN gives way to the other number. -/
def smaller (x y : Float) : Float :=
  if x.isNaN then y else if y.isNaN then x else if y < x then y else x

end Number

/-- A factor for each value of a field. -/
structure FieldMultiplier where
  field : String
  table : Table Float
  /-- The factor of a value that has no entry. -/
  default : Option Float
  deriving Inhabited

/-- A loss of value with every year, up to a limit. -/
structure Depreciation where
  ratePerYear : Float
  maximum : Float
  deriving Inhabited

/-- What is left of a value after a number of years. It never falls below nothing. -/
def Depreciation.factor (d : Depreciation) (age : Float) : Float :=
  let years := Number.larger age 0.0
  Number.larger (1.0 - Number.smaller (d.ratePerYear * years) d.maximum) 0.0

/-- The modifiers of an action. -/
structure Modifiers where
  fields : List FieldMultiplier := []
  condition : Table Float := .empty
  age : Option Depreciation := none
  brand : Table Float := .empty
  deriving Inhabited

namespace Modifiers

/-- Whether there is nothing to multiply by. -/
def isEmpty (m : Modifiers) : Bool :=
  m.fields.isEmpty && m.condition.isEmpty && m.age.isNone && m.brand.isEmpty

/-- The table of some factors, with its keys in their normal form. -/
def keyed (entries : List (String × Float)) : Table Float :=
  .ofList (entries.map fun (key, factor) => (Text.tableKey key, factor))

/-- The factor of a key in its normal form. The keys of the table need not be in theirs; the
entry under the key itself counts first. -/
def factor? (table : Table Float) (key : String) : Option Float :=
  match table.get? key with
  | some factor => some factor
  | none => (table.entries.find? fun entry => Text.tableKey entry.1 == key).map Prod.snd

end Modifiers

end Appraisal
