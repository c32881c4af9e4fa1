import Appraisal.Json.Reader

/-!
# Reading JSON into a record

A record is read straight from its text, so that the first fault in the text decides how it is
reported: as malformed text, or as well formed text of the wrong shape. An object names the
members of the record (`Reading.record`); a member that the record lacks is passed over, and one
that comes twice is misshapen. An array gives the members in their order.
-/

namespace Appraisal.Json

/-- Why a text cannot be read as what it should hold. -/
inductive ReadError
  | malformed
  | misshapen
  deriving DecidableEq, Inhabited

/-- A reader of a part of a text. -/
abbrev Reading := StateT (List Char) (Except ReadError)

namespace Reading

variable {α σ : Type}

/-- The next character after blanks, which stays where it is. -/
def peek : Reading (Option Char) := do
  modify skipSpace
  return (← get).head?

/-- Take the next character after blanks if it is `c`. -/
def accept (c : Char) : Reading Bool := do
  if (← peek) == some c then
    modify (List.drop 1)
    return true
  else return false

/-- Take the next character after blanks, which has to be `c`. -/
def expect (c : Char) : Reading Unit := do
  if !(← accept c) then throw .malformed

/-- Take a value without limits on its depth. -/
def take (strict : Bool) : Reading Json := do
  let cs ← get
  let fuel := 2 * cs.length + 2
  match readValue strict fuel fuel cs with
  | some (value, rest) =>
    set rest
    return value
  | none => throw .malformed

/-- Fail at a value of the wrong kind. A container is not looked into. -/
def misfit : Reading α := do
  let c ← peek
  if c != some '[' && c != some '\x7b' then
    let _ ← take true
  throw .misshapen

/-! ### Scalars -/

/-- A value other than a container that `f` takes. -/
def scalar (f : Json → Option α) : Reading α := do
  let c ← peek
  if c == some '[' || c == some '\x7b' then throw .misshapen
  match f (← take true) with
  | some a => return a
  | none => throw .misshapen

/-- A whole number of at most 64 bits. -/
def natural : Reading UInt64 := scalar fun
  | .integer (.ofNat n) => if n < UInt64.size then some (UInt64.ofNat n) else none
  | _ => none

/-- A number. -/
def number : Reading Float := scalar fun
  | .integer n => some (Float.ofInt n)
  | .float v => some v
  | _ => none

/-- A text. -/
def string : Reading String := scalar fun
  | .string s => some s
  | _ => none

/-- A text or null. -/
def optionalString : Reading (Option String) := scalar fun
  | .null => some none
  | .string s => some (some s)
  | _ => none

/-! ### Containers -/

/-- Whether an array has another item; the comma before it is taken. -/
def nextItem (first : Bool) : Reading Bool := do
  if (← peek) == some ']' then return false
  if !first then expect ','
  match ← peek with
  | none | some ']' => throw .malformed
  | some _ => return true

/-- The key of the next member of an object, if there is one. -/
def nextKey (first : Bool) : Reading (Option String) := do
  if (← peek) == some '\x7d' then return none
  if !first then expect ','
  expect '"'
  match stringBody true (← get) with
  | some (key, rest) =>
    set rest
    return some (String.ofList key)
  | none => throw .malformed

/-- The items of an array up to its closing bracket. -/
def items (item : Reading α) : (fuel : Nat) → (first : Bool) → Reading (List α)
  | 0, _ => throw .malformed
  | fuel + 1, first => do
    if ← nextItem first then
      let a ← item
      return a :: (← items item fuel false)
    else return []

/-- A list of items. -/
def list (item : Reading α) : Reading (List α) := do
  if !(← accept '[') then misfit
  let as ← items item ((← get).length + 1) true
  expect ']'
  return as

/-- The members of an object up to its closing brace. -/
def members (value : Reading α) : (fuel : Nat) → (first : Bool) → Reading (List (String × α))
  | 0, _ => throw .malformed
  | fuel + 1, first => do
    match ← nextKey first with
    | some key =>
      expect ':'
      let a ← value
      return (key, a) :: (← members value fuel false)
    | none => return []

/-- A table; of two values of one key the later one counts. -/
def table (value : Reading α) : Reading (Table α) := do
  if !(← accept '\x7b') then misfit
  let entries ← members value ((← get).length + 1) true
  expect '\x7d'
  return .ofList entries

/-! ### Records -/

/-- A member of a record, with the way to read it into the record. -/
structure Member (σ : Type) where
  key : String
  read : σ → Reading σ

/-- Read the members that an array gives, in order and as far as it goes. -/
def positional : List (Member σ) → (first : Bool) → σ → Reading σ
  | [], _, s => return s
  | member :: rest, first, s => do
    if ← nextItem first then positional rest false (← member.read s) else return s

/-- Read the members that an object names; `seen` holds the keys that have come. -/
def named (known : List (Member σ)) :
    (fuel : Nat) → (first : Bool) → (seen : List String) → σ → Reading σ
  | 0, _, _, _ => throw .malformed
  | fuel + 1, first, seen, s => do
    match ← nextKey first with
    | none => return s
    | some key =>
      if seen.contains key then throw .misshapen
      match known.find? (·.key == key) with
      | some member =>
        expect ':'
        named known fuel false (key :: seen) (← member.read s)
      | none =>
        expect ':'
        let _ ← take false
        named known fuel false seen s

/-- A record that starts out as `blank`. -/
def record (known : List (Member σ)) (blank : σ) : Reading σ := do
  if ← accept '[' then
    let s ← positional known true blank
    expect ']'
    return s
  else if ← accept '\x7b' then
    let s ← named known ((← get).length + 1) true [] blank
    expect '\x7d'
    return s
  else misfit

/-- What a whole text holds. -/
def whole (reading : Reading α) (text : String) : Except ReadError α := do
  let (a, rest) ← reading.run text.toList
  if skipSpace rest = [] then return a else throw .malformed

end Reading

end Appraisal.Json
