import Appraisal.Number.Layout
import Appraisal.Number.Reading
import Appraisal.Text.Character
import Appraisal.Text.Split

/-!
# Values

What a listing field holds and what a formula computes: nothing, a truth value, a whole number or
a float, a text, or a list of values. A value has a numeric view (`Value.number?`), a truth
(`Value.isTruthy`) and two texts, a quoted and a plain one.
-/

namespace Appraisal

/-- A value of a listing field or of a formula. -/
inductive Value
  | null
  | bool (b : Bool)
  | int (i : Int64)
  | float (v : Float)
  | string (s : String)
  | list (items : List Value)
  deriving Inhabited

namespace Value

/-- The name of a value's type in messages. -/
def typeName : Value → String
  | null => "null"
  | bool _ => "bool"
  | int _ => "int"
  | float _ => "float"
  | string _ => "string"
  | list _ => "list"

/-- Whether a value stands for an absent one. -/
def isNull : Value → Bool
  | null => true
  | _ => false

/-- The value as a number. A truth value counts as one or zero; a text is not read. -/
def number? : Value → Option Float
  | int i => some (Number.toFloat i)
  | float v => some v
  | bool b => some (if b then 1.0 else 0.0)
  | _ => none

/-- The value as a number, where a text that is the numeral of a finite number counts too. -/
def coerceNumber? : Value → Option Float
  | string s => (Number.readFloat? (Text.trim s)).filter Float.isFinite
  | v => v.number?

/-- The text of a text value. -/
def string? : Value → Option String
  | string s => some s
  | _ => none

/-- Null, false, a zero, an empty text and an empty list are not truthy; all else is. -/
def isTruthy : Value → Bool
  | null => false
  | bool b => b
  | int i => i != 0
  | float v => v != 0.0
  | string s => s != ""
  | list items => !items.isEmpty

mutual

/-- The text of a value, with quotes around texts. -/
def text : Value → String
  | null => "null"
  | bool b => if b then "true" else "false"
  | int i => Number.decimal i
  | float v => Number.plain v
  | string s => "\"" ++ s ++ "\""
  | list items => "[" ++ textAll items ++ "]"

/-- The texts of values, with commas between them. -/
def textAll : List Value → String
  | [] => ""
  | [v] => v.text
  | v :: rest => v.text ++ ", " ++ textAll rest

end

/-- The text of a value without quotes around it: the key of a look-up table. -/
def plainText : Value → String
  | string s => s
  | v => v.text

end Value

end Appraisal
