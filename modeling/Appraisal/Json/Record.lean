import Appraisal.Json.Basic

/-!
# Records of a JSON tree

A record is read from an object by the names of its members, of which it may ignore others, or
from an array by their order. What a record needs and does not find, and what has the wrong kind,
is a value of the wrong shape, which gives no record.
-/

namespace Appraisal.Json

/-! ### Scalars and lists -/

/-- A text. -/
def text? : Json → Option String
  | string s => some s
  | _ => none

/-- A truth value. -/
def truth? : Json → Option Bool
  | bool b => some b
  | _ => none

/-- A number. -/
def number? : Json → Option Float
  | integer n => some (Float.ofInt n)
  | float v => some v
  | _ => none

/-- A whole number of 32 bits. -/
def int32? : Json → Option Int32
  | integer n =>
    if Int32.minValue.toInt ≤ n ∧ n ≤ Int32.maxValue.toInt then some (Int32.ofInt n) else none
  | _ => none

variable {α σ : Type}

/-- A value or null. -/
def optional? (f : Json → Option α) : Json → Option (Option α)
  | null => some none
  | j => (f j).map some

/-- A list of values. -/
def list? (f : Json → Option α) : Json → Option (List α)
  | array items => items.mapM f
  | _ => none

/-- A table of values. -/
def table? (f : Json → Option α) : Json → Option (Table α)
  | object members => do return .ofList (← members.mapM fun m => return (m.1, ← f m.2))
  | _ => none

/-! ### Records -/

/-- A member of a record: the keys that it may have, of which one may be given, and the way to
put its value into the record. -/
structure Member (σ : Type) where
  keys : List String
  put : σ → Json → Option σ

/-- The member under the keys that an object may give it, if there is one. -/
def Member.read (members : List (String × Json)) (s : σ) (m : Member σ) : Option σ :=
  match m.keys.filterMap fun key => members.lookup key with
  | [] => some s
  | [j] => m.put s j
  | _ => none

/-- The members that an array gives, in order and as far as it goes. -/
def positional? : List (Member σ) → List Json → σ → Option σ
  | _, [], s => some s
  | [], _ :: _, _ => none
  | m :: known, j :: items, s => do positional? known items (← m.put s j)

/-- The record that starts out as `blank`. -/
def record? (known : List (Member σ)) (blank : σ) : Json → Option σ
  | object members => known.foldlM (Member.read members) blank
  | array items => positional? known items blank
  | _ => none

end Appraisal.Json
