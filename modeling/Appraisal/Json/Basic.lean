import Appraisal.Table
import Appraisal.Value.Basic

/-!
# JSON values

The tree of a JSON text. A number without fraction and exponent is kept as an integer as long as
it fits 64 bits, with or without a sign; any other number is a float. The members of an object that
is read stand in ascending order of their keys, and a key has one value (`ofMembers`).
-/

namespace Appraisal

/-- A JSON value. -/
inductive Json
  | null
  | bool (b : Bool)
  | integer (n : Int)
  | float (v : Float)
  | string (s : String)
  | array (items : List Json)
  | object (members : List (String × Json))
  deriving Inhabited

namespace Json

/-- The kind of a JSON value in messages. -/
def kind : Json → String
  | null => "null"
  | bool _ => "bool"
  | integer _ | float _ => "number"
  | string _ => "string"
  | array _ => "array"
  | object _ => "object"

/-- The object with the given members, of which a later one replaces an earlier one of the same
key. -/
def ofMembers (members : List (String × Json)) : Json :=
  object (Table.ofList members).entries

/-- The value of a key of an object. -/
def field? (key : String) : Json → Option Json
  | object members => members.lookup key
  | _ => none

end Json

mutual

/-- The value of a JSON scalar or of an array of such. There is none for an object. -/
def Value.ofJson? : Json → Option Value
  | .null => some .null
  | .bool b => some (.bool b)
  | .integer n => some (match Number.int64? n with
    | some i => .int i
    | none => .float (Float.ofInt n))
  | .float v => some (.float v)
  | .string s => some (.string s)
  | .array items => (Value.ofJsonAll? items).map .list
  | .object _ => none

/-- The values of the items of an array. -/
def Value.ofJsonAll? : List Json → Option (List Value)
  | [] => some []
  | j :: rest => do return (← Value.ofJson? j) :: (← Value.ofJsonAll? rest)

end

end Appraisal
