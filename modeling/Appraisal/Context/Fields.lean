import Appraisal.Value.Basic

/-!
# Trees of fields

The fields of a listing form a tree: a key names a value or a group of fields. A value or a group
is reached by the keys on the way to it (`get?`, `subgroup?`), and a value is put there by
`insert`. The keys of every group ascend (`Sorted`), so a key occurs once, and `put` and `insert`
keep it so (`Sorted.put`, `Sorted.insert`).
-/

namespace Appraisal

/-- The fields of a listing or of one group of it. -/
inductive Fields
  | nil
  | leaf (key : String) (value : Value) (rest : Fields)
  | group (key : String) (members : Fields) (rest : Fields)
  deriving Inhabited

/-- What a key names: a value, or a group of fields. -/
inductive Entry
  | leaf (value : Value)
  | group (members : Fields)

namespace Fields

/-- Put an entry in front of fields. -/
def cons (key : String) : Entry → Fields → Fields
  | .leaf value, rest => leaf key value rest
  | .group members, rest => group key members rest

/-- Whether there is no field and no group. -/
def isEmpty : Fields → Bool
  | nil => true
  | _ => false

/-! ### Looking up -/

/-- What a key names. -/
def find? (key : String) : Fields → Option Entry
  | nil => none
  | leaf k value rest => if k = key then some (.leaf value) else rest.find? key
  | group k members rest => if k = key then some (.group members) else rest.find? key

/-- The value that a key names. -/
def leaf? (key : String) (fields : Fields) : Option Value :=
  match fields.find? key with
  | some (.leaf value) => some value
  | _ => none

/-- The fields of the group that a key names. -/
def group? (key : String) (fields : Fields) : Option Fields :=
  match fields.find? key with
  | some (.group members) => some members
  | _ => none

/-- The value at the end of a path of keys. -/
def get? : List String → Fields → Option Value
  | [], _ => none
  | [key], fields => fields.leaf? key
  | key :: path, fields => (fields.group? key).bind (get? path)

/-- The group at the end of a path of keys. -/
def subgroup? : List String → Fields → Option Fields
  | [], _ => none
  | [key], fields => fields.group? key
  | key :: path, fields => (fields.group? key).bind (subgroup? path)

/-- The values in the order of their keys, each with the keys on the way to it. -/
def leaves : Fields → List (List String × Value)
  | nil => []
  | leaf key value rest => ([key], value) :: rest.leaves
  | group key members rest =>
    members.leaves.map (fun (path, value) => (key :: path, value)) ++ rest.leaves

/-! ### Putting in -/

/-- Make a key name an entry, in place of what it named. -/
def put (key : String) (entry : Entry) : Fields → Fields
  | nil => nil.cons key entry
  | leaf k value rest =>
    if key < k then cons key entry (leaf k value rest)
    else if key = k then cons key entry rest
    else leaf k value (rest.put key entry)
  | group k members rest =>
    if key < k then cons key entry (group k members rest)
    else if key = k then cons key entry rest
    else group k members (rest.put key entry)

/-- Put a value at the end of a path of keys. A value on the way gives place to a group. -/
def insert : List String → Value → Fields → Fields
  | [], _, fields => fields
  | [key], value, fields => fields.put key (.leaf value)
  | key :: path, value, fields =>
    fields.put key (.group (((fields.group? key).getD nil).insert path value))

/-! ### Order of the keys -/

/-- Every key is greater than `low`. -/
def Above (low : String) : Fields → Prop
  | nil => True
  | leaf key _ rest => low < key ∧ rest.Above low
  | group key _ rest => low < key ∧ rest.Above low

/-- The keys ascend, in every group too. -/
def Sorted : Fields → Prop
  | nil => True
  | leaf key _ rest => rest.Above key ∧ rest.Sorted
  | group key members rest => members.Sorted ∧ rest.Above key ∧ rest.Sorted

end Fields

/-- The fields of an entry are sorted, if it is a group. -/
def Entry.Sorted : Entry → Prop
  | .leaf _ => True
  | .group members => members.Sorted

namespace Fields

variable {low key : String} {entry : Entry} {fields : Fields}

theorem Above.trans {high : String} (h : low < high) (hf : fields.Above high) :
    fields.Above low := by
  induction fields with
  | nil => trivial
  | leaf k v rest ih => exact ⟨String.lt_trans h hf.1, ih hf.2⟩
  | group k m rest _ ih => exact ⟨String.lt_trans h hf.1, ih hf.2⟩

theorem above_cons : (fields.cons key entry).Above low ↔ low < key ∧ fields.Above low := by
  cases entry <;> rfl

theorem sorted_cons :
    (fields.cons key entry).Sorted ↔ entry.Sorted ∧ fields.Above key ∧ fields.Sorted := by
  cases entry <;> simp [cons, Sorted, Entry.Sorted]

theorem Above.put (h : low < key) (hf : fields.Above low) : (fields.put key entry).Above low := by
  induction fields with
  | nil => exact above_cons.2 ⟨h, trivial⟩
  | leaf k v rest ih =>
    rw [Fields.put]
    split
    · exact above_cons.2 ⟨h, hf⟩
    · split
      · exact above_cons.2 ⟨h, hf.2⟩
      · exact ⟨hf.1, ih hf.2⟩
  | group k m rest _ ih =>
    rw [Fields.put]
    split
    · exact above_cons.2 ⟨h, hf⟩
    · split
      · exact above_cons.2 ⟨h, hf.2⟩
      · exact ⟨hf.1, ih hf.2⟩

theorem lt_of_not_lt_of_ne {a b : String} (h : ¬a < b) (hne : a ≠ b) : b < a :=
  Std.lt_of_le_of_ne (String.not_lt.1 h) hne.symm

/-- Putting a sorted entry keeps the keys in order. -/
theorem Sorted.put (he : entry.Sorted) (hf : fields.Sorted) : (fields.put key entry).Sorted := by
  induction fields with
  | nil => exact sorted_cons.2 ⟨he, trivial, trivial⟩
  | leaf k v rest ih =>
    rw [Fields.put]
    split
    · next h => exact sorted_cons.2 ⟨he, ⟨h, hf.1.trans h⟩, hf⟩
    · next h =>
      split
      · next heq => exact sorted_cons.2 ⟨he, heq ▸ hf.1, hf.2⟩
      · next hne => exact ⟨hf.1.put (lt_of_not_lt_of_ne h hne), ih hf.2⟩
  | group k m rest _ ih =>
    rw [Fields.put]
    split
    · next h => exact sorted_cons.2 ⟨he, ⟨h, hf.2.1.trans h⟩, hf⟩
    · next h =>
      split
      · next heq => exact sorted_cons.2 ⟨he, heq ▸ hf.2.1, hf.2.2⟩
      · next hne => exact ⟨hf.1, hf.2.1.put (lt_of_not_lt_of_ne h hne), ih hf.2.2⟩

theorem Sorted.find? (hf : fields.Sorted) (h : fields.find? key = some entry) : entry.Sorted := by
  induction fields with
  | nil => simp [Fields.find?] at h
  | leaf k v rest ih =>
    rw [Fields.find?] at h
    split at h
    · cases h; trivial
    · exact ih hf.2 h
  | group k m rest _ ih =>
    rw [Fields.find?] at h
    split at h
    · cases h; exact hf.1
    · exact ih hf.2.2 h

theorem Sorted.group? {members : Fields} (hf : fields.Sorted)
    (h : fields.group? key = some members) : members.Sorted := by
  rw [Fields.group?] at h
  split at h
  · next h' => cases h; exact hf.find? h'
  · cases h

/-- Inserting a value keeps the keys in order. -/
theorem Sorted.insert {path : List String} {value : Value} (hf : fields.Sorted) :
    (fields.insert path value).Sorted := by
  induction path generalizing fields with
  | nil => exact hf
  | cons key path ih =>
    cases path with
    | nil => exact hf.put trivial
    | cons key' path =>
      refine Sorted.put (ih ?_) hf
      cases h : fields.group? key with
      | none => trivial
      | some members => exact hf.group? h

end Fields

end Appraisal
