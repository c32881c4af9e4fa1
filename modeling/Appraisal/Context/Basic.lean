import Appraisal.Context.Fields
import Appraisal.Json.Reader
import Appraisal.Text.Split

/-!
# Contexts

The fields of a listing, as rules and formulas see them. A field has a dotted path, whose
segments are the keys on the way to it. It may also be asked for by its flat spelling, the
segments joined by underscores (`Context.getFlat?`).
-/

namespace Appraisal

/-- The fields of a listing. -/
structure Context where
  fields : Fields := .nil
  sorted : fields.Sorted := by trivial

/-- The keys of a dotted path. -/
def segments (path : String) : List String :=
  (Text.splitOn '.' path.toList).map String.ofList

/-- A path one key longer. What comes after an empty path is a path of its own. -/
def joinPath (start key : String) : String :=
  if start = "" then key else start ++ "." ++ key

/-- The dotted path of keys. -/
def dotted (keys : List String) : String := keys.foldl joinPath ""

/-- A path with underscores in place of its points. -/
def flatSpelling (path : String) : String :=
  String.ofList (path.toList.map fun c => if c = '.' then '_' else c)

namespace Fields

/-- The part of a flat spelling that is left for the members of a group. -/
def dropKey? (key name : String) : Option String :=
  (Text.dropPrefix? (key.toList ++ ['_']) name.toList).map String.ofList

/-- A value inside one of the groups, by its flat spelling: the first group that a beginning of
the name spells and that holds the rest of it. Inside a group a value comes before a group. -/
def flatInGroups? (name : String) : Fields → Option Value
  | nil => none
  | leaf _ _ rest => rest.flatInGroups? name
  | group key members rest =>
    (match dropKey? key name with
      | some left => (members.leaf? left).or (members.flatInGroups? left)
      | none => none).or (rest.flatInGroups? name)

/-- A value by its flat spelling. -/
def flat? (name : String) (fields : Fields) : Option Value :=
  (fields.leaf? name).or (fields.flatInGroups? name)

end Fields

namespace Context

/-- The listing without fields. -/
def empty : Context := {}

/-- The value at a dotted path. -/
def get? (context : Context) (path : String) : Option Value :=
  context.fields.get? (segments path)

/-- The value of a flat spelling. -/
def getFlat? (context : Context) (name : String) : Option Value := context.fields.flat? name

/-- The value of a field, by its path or else by its flat spelling. -/
def lookup? (context : Context) (path : String) : Option Value :=
  (context.get? path).or (context.getFlat? (flatSpelling path))

/-- Whether a path leads to a group of fields. -/
def isGroup (context : Context) (path : String) : Bool :=
  (context.fields.subgroup? (segments path)).isSome

/-- Put a value at a dotted path. -/
def insert (context : Context) (path : String) (value : Value) : Context where
  fields := context.fields.insert (segments path) value
  sorted := context.sorted.insert

/-- The dotted paths of all values. -/
def fieldPaths (context : Context) : List String := context.fields.leaves.map fun l => dotted l.1

/-- The number of values. -/
def size (context : Context) : Nat := context.fieldPaths.length

/-- Whether there is no field and no group. -/
def isEmpty (context : Context) : Bool := context.fields.isEmpty

end Context

/-! ### Contexts from JSON -/

/-- Why a text is no context. -/
inductive ContextError
  | malformed
  | notAnObject (kind : String)
  | unsupportedValue (path : String)
  deriving DecidableEq

/-- The message of a context error, without the explanation of malformed JSON. -/
def ContextError.message : ContextError → String
  | malformed => ""
  | notAnObject kind => "evaluation context must be a JSON object, got " ++ kind
  | unsupportedValue path =>
    "unsupported value at '" ++ path ++ "': arrays may only contain scalars"

mutual

/-- The entry that a JSON value stands for at a path. -/
def Entry.ofJson (path : String) : Json → Except ContextError Entry
  | .object members => (Fields.ofMembers path members).map .group
  | json => match Value.ofJson? json with
    | some value => .ok (.leaf value)
    | none => .error (.unsupportedValue path)

/-- The fields that the members of a JSON object stand for below a path. -/
def Fields.ofMembers (path : String) : List (String × Json) → Except ContextError Fields
  | [] => .ok .nil
  | (key, json) :: rest => do
    let entry ← Entry.ofJson (joinPath path key) json
    return (← Fields.ofMembers path rest).put key entry

end

mutual

theorem Entry.sorted_ofJson {path : String} {json : Json} {entry : Entry}
    (h : Entry.ofJson path json = .ok entry) : entry.Sorted := by
  cases json with
  | object members =>
    rw [Entry.ofJson] at h
    cases hm : Fields.ofMembers path members with
    | error e => simp [hm, Except.map] at h
    | ok fields =>
      simp only [hm, Except.map, Except.ok.injEq] at h
      exact h ▸ Fields.sorted_ofMembers hm
  | _ =>
    simp only [Entry.ofJson] at h
    split at h
    · cases h; trivial
    · cases h

/-- The fields of a JSON object are in order. -/
theorem Fields.sorted_ofMembers {path : String} {members : List (String × Json)}
    {fields : Fields} (h : Fields.ofMembers path members = .ok fields) : fields.Sorted := by
  cases members with
  | nil => rw [Fields.ofMembers] at h; cases h; trivial
  | cons member rest =>
    obtain ⟨key, json⟩ := member
    rw [Fields.ofMembers] at h
    cases he : Entry.ofJson (joinPath path key) json with
    | error e => rw [he] at h; cases h
    | ok entry =>
      cases hr : Fields.ofMembers path rest with
      | error e => rw [he, hr] at h; cases h
      | ok others =>
        rw [he, hr] at h
        cases h
        exact (Fields.sorted_ofMembers hr).put (Entry.sorted_ofJson he)

end

namespace Context

/-- The context of a JSON object: nested objects are groups, and arrays are lists of scalars. -/
def ofJson : Json → Except ContextError Context
  | .object members =>
    match h : Fields.ofMembers "" members with
    | .ok fields => .ok ⟨fields, Fields.sorted_ofMembers h⟩
    | .error e => .error e
  | json => .error (.notAnObject json.kind)

/-- The context of a JSON text. -/
def read (text : String) : Except ContextError Context :=
  match Json.read? text with
  | some json => ofJson json
  | none => .error .malformed

end Context

end Appraisal
