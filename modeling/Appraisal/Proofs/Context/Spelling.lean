import Appraisal.Proofs.Context.Leaves
import Appraisal.Proofs.Context.Paths

/-!
# Flat spellings of fields

A flat spelling is searched for in the groups whose names it begins with, and a name may begin with
those of several groups. The search misses nothing: it finds a value just if the keys of some value
are spelled so, and then the value of such keys (`Context.finds_spellings`).

* What is found has keys of that spelling (`Fields.exists_of_flat?`).
* The keys that lead to a value spell a name under which one is found
  (`Fields.isSome_flat?_of_get?`).
* So a path resolves just if its flat spelling does (`Context.isSome_lookup?_iff`).
-/

namespace Appraisal

namespace Fields

variable {fields members : Fields} {key name left : String} {keys : List String} {v : Value}

/-! ### What is found -/

theorem dropKey?_eq_some_iff : dropKey? key name = some left ↔ name = key ++ "_" ++ left := by
  rw [dropKey?, Option.map_eq_some_iff, ← String.toList_inj]
  constructor
  · rintro ⟨rest, hrest, rfl⟩
    simpa using Text.dropPrefix?_eq_some_iff.1 hrest
  · intro h
    exact ⟨left.toList, Text.dropPrefix?_eq_some_iff.2 (by simpa using h), String.ofList_toList⟩

theorem flatInGroups?_group (rest : Fields) : (group key members rest).flatInGroups? name =
    ((dropKey? key name).bind members.flat?).or (rest.flatInGroups? name) := by
  rw [flatInGroups?]
  cases dropKey? key name <;> rfl

theorem exists_of_flatInGroups? (hs : fields.Sorted) (h : fields.flatInGroups? name = some v) :
    ∃ keys, (keys, v) ∈ fields.leaves ∧ Text.join "_" keys = name := by
  induction fields generalizing name with
  | nil => cases h
  | leaf k value rest ih =>
    obtain ⟨keys, hkeys, hname⟩ := ih hs.2 h
    exact ⟨keys, List.mem_cons_of_mem _ hkeys, hname⟩
  | group k members rest ihm ih =>
    obtain ⟨hmembers, -, hrest⟩ := hs
    rw [flatInGroups?_group, Option.or_eq_some_iff] at h
    rcases h with h | ⟨-, h⟩
    · obtain ⟨left, hleft, h⟩ := Option.bind_eq_some_iff.1 h
      have hinside : ∃ keys, (keys, v) ∈ members.leaves ∧ Text.join "_" keys = left := by
        rcases Option.or_eq_some_iff.1 h with h | ⟨-, h⟩
        · exact ⟨[left], (mem_leaves_iff hmembers).2 h, rfl⟩
        · exact ihm hmembers h
      obtain ⟨keys, hkeys, rfl⟩ := hinside
      have hne := ne_nil_of_get? ((mem_leaves_iff hmembers).1 hkeys)
      refine ⟨k :: keys, List.mem_append_left _ (List.mem_map.2 ⟨_, hkeys, rfl⟩), ?_⟩
      rw [Text.join_cons _ _ hne, dropKey?_eq_some_iff.1 hleft]
    · obtain ⟨keys, hkeys, hname⟩ := ih hrest h
      exact ⟨keys, List.mem_append_right _ hkeys, hname⟩

/-- A value that is found under a flat spelling has keys of that spelling. -/
theorem exists_of_flat? (hs : fields.Sorted) (h : fields.flat? name = some v) :
    ∃ keys, (keys, v) ∈ fields.leaves ∧ Text.join "_" keys = name := by
  rcases Option.or_eq_some_iff.1 h with h | ⟨-, h⟩
  · exact ⟨[name], (mem_leaves_iff hs).2 h, rfl⟩
  · exact exists_of_flatInGroups? hs h

/-! ### What is there -/

/-- A search that succeeds in a group succeeds around it, there or in a group before it. -/
theorem isSome_flatInGroups? (h : fields.group? key = some members)
    (hleft : (members.flat? left).isSome) :
    (fields.flatInGroups? (key ++ "_" ++ left)).isSome := by
  induction fields with
  | nil => cases h
  | leaf k value rest ih =>
    rw [group?, find?] at h
    split_ifs at h
    exact ih h
  | group k inner rest _ ih =>
    rw [flatInGroups?_group, Option.isSome_or, Bool.or_eq_true]
    rw [group?, find?] at h
    split_ifs at h with hk
    · subst hk
      cases h
      left
      rw [dropKey?_eq_some_iff.2 rfl]
      exact hleft
    · exact .inr (ih h)

/-- Keys that lead to a value spell a name under which one is found. -/
theorem isSome_flat?_of_get? (h : fields.get? keys = some v) :
    (fields.flat? (Text.join "_" keys)).isSome := by
  induction keys generalizing fields with
  | nil => cases h
  | cons key path ih =>
    rw [flat?, Option.isSome_or, Bool.or_eq_true]
    cases path with
    | nil => exact .inl (Option.isSome_of_eq_some h)
    | cons next path =>
      obtain ⟨members, hmembers, h⟩ := Option.bind_eq_some_iff.1 h
      exact .inr (isSome_flatInGroups? hmembers (ih h))

end Fields

namespace Context

variable (context : Context)

/-- The value that a path leads to is found under the flat spelling too. -/
theorem isSome_getFlat?_of_get? {path : String} {v : Value} (h : context.get? path = some v) :
    (context.getFlat? (flatSpelling path)).isSome := by
  rw [flatSpelling_eq_join]
  exact Fields.isSome_flat?_of_get? h

/-- A path resolves just if its flat spelling does. -/
theorem isSome_lookup?_iff (path : String) :
    (context.lookup? path).isSome ↔ (context.getFlat? (flatSpelling path)).isSome := by
  rw [lookup?]
  cases h : context.get? path with
  | none => rw [Option.none_or]
  | some v => simpa using context.isSome_getFlat?_of_get? h

/-- A name without points is the path and the flat spelling of the same field. -/
theorem lookup?_eq_getFlat? {name : String} (h : IsPlain name) :
    context.lookup? name = context.getFlat? name := by
  have hget : context.get? name = context.fields.leaf? name := by
    rw [get?, h.segments_eq, Fields.get?]
  rw [lookup?, h.flatSpelling_eq, hget, getFlat?, Fields.flat?]
  cases context.fields.leaf? name <;> rfl

/-- A value that is found under a flat spelling has keys of that spelling. -/
theorem exists_of_getFlat? {name : String} {v : Value} (h : context.getFlat? name = some v) :
    ∃ l ∈ context.fields.leaves, Text.join "_" l.1 = name ∧ l.2 = v := by
  obtain ⟨keys, hkeys, hname⟩ := Fields.exists_of_flat? context.sorted h
  exact ⟨_, hkeys, hname, rfl⟩

/-- A flat spelling finds a value just if the keys of a value are spelled so. -/
theorem isSome_getFlat?_iff (name : String) : (context.getFlat? name).isSome ↔
    ∃ l ∈ context.fields.leaves, Text.join "_" l.1 = name := by
  constructor
  · intro h
    obtain ⟨v, hv⟩ := Option.isSome_iff_exists.1 h
    obtain ⟨l, hl, hname, -⟩ := context.exists_of_getFlat? hv
    exact ⟨l, hl, hname⟩
  · rintro ⟨⟨keys, v⟩, hl, rfl⟩
    exact Fields.isSome_flat?_of_get? ((Fields.mem_leaves_iff context.sorted).1 hl)

/-- Where no two values are spelled alike, the value that a path leads to is the one that its
spelling finds. -/
theorem getFlat?_of_get? {path : String} {v : Value}
    (hunique : (context.fields.leaves.map fun l => Text.join "_" l.1).Nodup)
    (h : context.get? path = some v) : context.getFlat? (flatSpelling path) = some v := by
  obtain ⟨w, hw⟩ := Option.isSome_iff_exists.1 (context.isSome_getFlat?_of_get? h)
  -- the value that is found has keys spelled as the segments of the path
  obtain ⟨l, hl, hspelled, rfl⟩ := context.exists_of_getFlat? hw
  rw [flatSpelling_eq_join] at hspelled
  have hmem := (Fields.mem_leaves_iff context.sorted).2 h
  have heq := List.inj_on_of_nodup_map hunique hl hmem hspelled
  rw [hw, heq]

/-- **A flat spelling finds a value just if the keys of a value are spelled so**, and then the
value of such keys. Where no two values are spelled alike, a path and its flat spelling therefore
look up the same. -/
theorem finds_spellings :
    (∀ name, (context.getFlat? name).isSome ↔
      ∃ l ∈ context.fields.leaves, Text.join "_" l.1 = name) ∧
    (∀ name v, context.getFlat? name = some v →
      ∃ l ∈ context.fields.leaves, Text.join "_" l.1 = name ∧ l.2 = v) ∧
    ((context.fields.leaves.map fun l => Text.join "_" l.1).Nodup →
      ∀ path, context.lookup? path = context.lookup? (flatSpelling path)) := by
  refine ⟨context.isSome_getFlat?_iff, fun _ _ => context.exists_of_getFlat?,
    fun hunique path => ?_⟩
  rw [context.lookup?_eq_getFlat? (isPlain_flatSpelling path), lookup?]
  cases hget : context.get? path with
  | none => rw [Option.none_or]
  | some v => rw [Option.some_or, context.getFlat?_of_get? hunique hget]

/-- A listing with a group in a group and a name with an underscore in it. -/
theorem finds_spellings_storage :
    let context := (Context.empty.insert "storage.primary.size_gb" (.int 512)).insert
      "storage.kind" (.string "ssd")
    (context.fields.leaves.map fun l => Text.join "_" l.1).Nodup ∧
      context.lookup? "storage.primary.size_gb" =
        context.lookup? (flatSpelling "storage.primary.size_gb") ∧
      flatSpelling "storage.primary.size_gb" = "storage_primary_size_gb" := by
  intro context
  have hunique : (context.fields.leaves.map fun l => Text.join "_" l.1).Nodup := by
    decide +kernel
  exact ⟨hunique, context.finds_spellings.2.2 hunique _, by decide +kernel⟩

/-- Two values that are spelled alike are told apart by their paths alone. -/
example :
    let context := (Context.empty.insert "a.b_c" (.int 1)).insert "a_b.c" (.int 2)
    (context.lookup? "a_b.c", context.lookup? (flatSpelling "a_b.c")) =
      (some (.int 2), some (.int 1)) := by rfl

end Context

end Appraisal
