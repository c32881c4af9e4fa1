import Appraisal.Proofs.Context.Insertion
import Appraisal.Proofs.Outcome

/-!
# Listed fields

The fields of a JSON object are its leaves: a row of keys leads to a value in the listing just if
it leads to a leaf of the object, and then to the value of that leaf (`Fields.get?_ofMembers`).
Each leaf is listed once, under its dotted path, and the path leads to it
(`Context.resolves_listed`). A path cannot tell a point in a key from the point between two keys,
so leaves whose keys hold points are listed under paths that lead elsewhere
(`Context.not_resolves_listed`).
-/

namespace Appraisal

namespace Json

/-- What a row of keys leads to. -/
def at? : List String → Json → Option Json
  | [], json => some json
  | key :: path, json => (json.field? key).bind (at? path)

/-- The leaf that a row of keys leads to. Objects are no leaves. -/
def leafAt? (keys : List String) (json : Json) : Option Json :=
  match json.at? keys with
  | some (.object _) => none
  | leaf => leaf

theorem leafAt?_cons {members : List (String × Json)} {key : String} {json : Json}
    (h : members.lookup key = some json) (path : List String) :
    leafAt? (key :: path) (.object members) = leafAt? path json := by
  simp [leafAt?, at?, field?, h]

/-- No keys lead on from a leaf. -/
theorem leafAt?_of_ofJson? {json : Json} {v : Value} (h : Value.ofJson? json = some v)
    (path : List String) : leafAt? path json = if path = [] then some json else none := by
  cases json with
  | object => cases h
  | _ => cases path <;> simp [leafAt?, at?, field?]

end Json

open Json

/-! ### From members to fields -/

/-- The entry of an object is a group, and that of a leaf is its value. -/
theorem Entry.ofJson_eq_ok {path : String} {json : Json} {entry : Entry}
    (h : Entry.ofJson path json = .ok entry) :
    (∃ members fields, json = .object members ∧ entry = .group fields ∧
      Fields.ofMembers path members = .ok fields) ∨
    ∃ v, Value.ofJson? json = some v ∧ entry = .leaf v := by
  cases json with
  | object members =>
    rw [Entry.ofJson] at h
    cases hm : Fields.ofMembers path members with
    | error e => rw [hm] at h; cases h
    | ok fields =>
      rw [hm] at h
      cases h
      exact .inl ⟨members, fields, rfl, rfl, hm⟩
  | _ =>
    simp only [Entry.ofJson] at h
    split at h
    · next v hv =>
      cases h
      exact .inr ⟨v, hv, rfl⟩
    · cases h

namespace Fields

variable {start : String} {members : List (String × Json)} {fields : Fields}

/-- A key names just what the member of that key stands for. -/
theorem find?_ofMembers (h : Fields.ofMembers start members = .ok fields) (key : String) :
    (members.lookup key = none ∧ fields.find? key = none) ∨
    ∃ json entry, members.lookup key = some json ∧
      Entry.ofJson (joinPath start key) json = .ok entry ∧ fields.find? key = some entry := by
  induction members generalizing fields with
  | nil =>
    rw [ofMembers] at h
    cases h
    exact .inl ⟨rfl, rfl⟩
  | cons member rest ih =>
    obtain ⟨k, json⟩ := member
    rw [ofMembers] at h
    obtain ⟨entry, hentry, h⟩ := except_bind_eq_ok_iff.1 h
    obtain ⟨others, hothers, h⟩ := except_bind_eq_ok_iff.1 h
    cases h
    rw [Table.lookup_cons_eq, find?_put]
    by_cases hk : k = key
    · subst hk
      exact .inr ⟨json, entry, if_pos rfl, hentry, if_pos rfl⟩
    · rw [if_neg hk, if_neg (Ne.symm hk)]
      exact ih hothers

/-- Keys lead to the values of the leaves of an object, and to nothing else. -/
theorem get?_ofMembers (h : Fields.ofMembers start members = .ok fields) (keys : List String) :
    Option.Rel (fun leaf v => Value.ofJson? leaf = some v)
      (leafAt? keys (.object members)) (fields.get? keys) := by
  induction keys generalizing start members fields with
  | nil => exact .none
  | cons key path ih =>
    rw [get?_cons]
    rcases find?_ofMembers h key with ⟨hnone, hfind⟩ | ⟨json, entry, hjson, hentry, hfind⟩
    · rw [hfind, leafAt?, at?, field?, hnone]
      exact .none
    · rw [hfind, leafAt?_cons hjson]
      rcases Entry.ofJson_eq_ok hentry with ⟨inner, group, rfl, rfl, hgroup⟩ | ⟨v, hv, rfl⟩
      · exact ih hgroup
      · rw [leafAt?_of_ofJson? hv, Option.bind_some, Entry.get?]
        split
        · exact .some hv
        · exact .none

end Fields

/-! ### Listed paths -/

namespace Context

variable {json : Json} {context : Context}

theorem get?_ofJson (h : ofJson json = .ok context) (keys : List String) :
    Option.Rel (fun leaf v => Value.ofJson? leaf = some v)
      (json.leafAt? keys) (context.fields.get? keys) := by
  cases json with
  | object members =>
    rw [ofJson] at h
    split at h
    · next fields hfields =>
      cases h
      exact Fields.get?_ofMembers hfields keys
    · cases h
  | _ => cases h

/-- A field whose keys hold no points is looked up by the path that it is listed under. -/
theorem lookup?_dotted {keys : List String} {v : Value} (h : (keys, v) ∈ context.fields.leaves)
    (haddress : IsAddress keys) : context.lookup? (dotted keys) = some v := by
  have hget := (Fields.mem_leaves_iff context.sorted).1 h
  rw [lookup?, get?, haddress.segments_dotted (Fields.ne_nil_of_get? hget), hget, Option.some_or]

/-- Fields whose keys hold no points are listed under different paths. -/
theorem dotted_inj {l m : List String × Value} (hl : l ∈ context.fields.leaves)
    (hm : m ∈ context.fields.leaves) (hlkeys : IsAddress l.1) (hmkeys : IsAddress m.1)
    (h : dotted l.1 = dotted m.1) : l = m := by
  have hnodup := Fields.nodup_leaves context.sorted
  refine List.inj_on_of_nodup_map hnodup hl hm ?_
  have hne {l : List String × Value} (hl : l ∈ context.fields.leaves) : l.1 ≠ [] :=
    Fields.ne_nil_of_get? ((Fields.mem_leaves_iff context.sorted).1 hl)
  rw [← hlkeys.segments_dotted (hne hl), h, hmkeys.segments_dotted (hne hm)]

/-- **The listed paths of a JSON object are those of its leaves, one path a leaf.** The leaves
whose keys hold no points, nor lie in a group under an empty key at the front, have different
paths, and each of these paths resolves to the value of its leaf. -/
theorem resolves_listed (h : ofJson json = .ok context) :
    ∃ leaves : List (List String × Value),
      (leaves.map Prod.fst).Nodup ∧
      (∀ keys leaf, json.leafAt? keys = some leaf → (Value.ofJson? leaf).isSome) ∧
      (∀ keys v, (keys, v) ∈ leaves ↔
        ∃ leaf, json.leafAt? keys = some leaf ∧ Value.ofJson? leaf = some v) ∧
      context.fieldPaths = leaves.map (fun l => dotted l.1) ∧
      (∀ l ∈ leaves, IsAddress l.1 → context.lookup? (dotted l.1) = some l.2) ∧
      ∀ l ∈ leaves, ∀ m ∈ leaves, IsAddress l.1 → IsAddress m.1 →
        dotted l.1 = dotted m.1 → l = m := by
  refine ⟨context.fields.leaves, Fields.nodup_leaves context.sorted, ?_, ?_, rfl,
    fun l hl => lookup?_dotted hl, fun l hl m hm => dotted_inj hl hm⟩
  · intro keys leaf hleaf
    have hrel := get?_ofJson h keys
    rw [hleaf] at hrel
    generalize context.fields.get? keys = found at hrel
    cases hrel with
    | some hv => exact Option.isSome_of_eq_some hv
  · intro keys v
    rw [Fields.mem_leaves_iff context.sorted]
    have hrel := get?_ofJson h keys
    generalize json.leafAt? keys = leaf, context.fields.get? keys = found at hrel ⊢
    cases hrel with
    | none => simp
    | some hv => simp [hv]

/-- A listing with a group and a name that holds an underscore. -/
theorem resolves_listed_cores :
    let json := Json.object [("cpu", .object [("cores", .integer 8)]), ("ram_gb", .integer 16)]
    ∃ context, ofJson json = .ok context ∧ context.fieldPaths = ["cpu.cores", "ram_gb"] ∧
      context.lookup? "cpu.cores" = some (.int 8) := by
  intro json
  obtain ⟨context, h⟩ : ∃ context, ofJson json = .ok context := ⟨_, rfl⟩
  obtain ⟨leaves, -, -, hleaves, -, hresolves, -⟩ := resolves_listed h
  have hmem : (["cpu", "cores"], Value.int 8) ∈ leaves := (hleaves _ _).2 ⟨_, rfl, rfl⟩
  have haddress : IsAddress ["cpu", "cores"] := ⟨by simp [IsPlain], by simp⟩
  exact ⟨context, h, by cases h; rfl, hresolves _ hmem haddress⟩

/-- A point in a key is taken for the end of a segment: the field is listed and not resolved. -/
theorem not_resolves_listed :
    ∃ context, ofJson (.object [("cpu.cores", .integer 8)]) = .ok context ∧
      context.fieldPaths = ["cpu.cores"] ∧ context.lookup? "cpu.cores" = none :=
  ⟨_, rfl, rfl, rfl⟩

/-- Two leaves with the same path, which leads to the first of them. -/
example : (ofJson (.object [("a", .object [("b", .integer 1)]), ("a.b", .integer 2)])).map
    (fun context => (context.fieldPaths, context.lookup? "a.b")) =
    .ok (["a.b", "a.b"], some (.int 1)) := by rfl

end Context

end Appraisal
