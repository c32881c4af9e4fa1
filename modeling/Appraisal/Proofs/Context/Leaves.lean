import Appraisal.Context.Fields
import Mathlib.Data.List.Nodup

/-!
# The values of a tree

The values that a tree lists are those that its rows of keys lead to (`Fields.mem_leaves_iff`),
each of them listed once (`Fields.nodup_leaves`). Both rest on the order of the keys: a key that
stood twice in a group would hide its second entry.
-/

namespace Appraisal

/-- The value that a row of keys leads to from an entry. -/
def Entry.get? (keys : List String) : Entry → Option Value
  | .leaf value => if keys = [] then some value else none
  | .group members => members.get? keys

namespace Fields

variable {fields : Fields} {key : String} {path keys : List String} {v : Value}

/-! ### One key after the other -/

theorem get?_cons : fields.get? (key :: path) = (fields.find? key).bind (Entry.get? path) := by
  cases path with
  | nil =>
    rw [get?, leaf?]
    cases fields.find? key with
    | none => rfl
    | some entry => cases entry <;> rfl
  | cons next path =>
    rw [get?, group?]
    · cases fields.find? key with
      | none => rfl
      | some entry => cases entry <;> rfl
    · simp

theorem ne_nil_of_get? (h : fields.get? keys = some v) : keys ≠ [] := by
  rintro rfl
  cases h

/-- A key before all others is not among them. -/
theorem find?_of_above (h : fields.Above key) : fields.find? key = none := by
  induction fields with
  | nil => rfl
  | leaf k _ rest ih | group k _ rest _ ih =>
    have hne : k ≠ key := fun heq => String.lt_irrefl key (heq ▸ h.1)
    rw [find?, if_neg hne, ih h.2]

/-! ### Listed values -/

/-- The values listed in a tree are the values that rows of keys lead to. -/
theorem mem_leaves_iff (hs : fields.Sorted) :
    (keys, v) ∈ fields.leaves ↔ fields.get? keys = some v := by
  induction fields generalizing keys with
  | nil => cases keys <;> simp [leaves, get?, get?_cons, find?]
  | leaf k value rest ih =>
    obtain ⟨habove, hrest⟩ := hs
    cases keys with
    | nil => simp [leaves, ih hrest, get?]
    | cons key path =>
      rw [leaves, List.mem_cons, ih hrest, get?_cons, get?_cons, find?]
      by_cases hk : k = key
      · subst hk
        rw [if_pos rfl, find?_of_above habove]
        cases path <;> simp [Entry.get?, eq_comm]
      · simp [hk, Ne.symm hk]
  | group k members rest ihm ih =>
    obtain ⟨hmembers, habove, hrest⟩ := hs
    cases keys with
    | nil => simp [leaves, ih hrest, get?]
    | cons key path =>
      rw [leaves, List.mem_append, ih hrest, get?_cons, get?_cons, find?]
      by_cases hk : k = key
      · subst hk
        rw [if_pos rfl, find?_of_above habove]
        simp [Entry.get?, ihm hmembers]
      · simp [hk]

theorem cons_notMem_leaves (habove : fields.Above key) (hs : fields.Sorted)
    (path : List String) : key :: path ∉ fields.leaves.map Prod.fst := by
  intro hmem
  obtain ⟨⟨keys, v⟩, hl, rfl⟩ := List.mem_map.1 hmem
  rw [mem_leaves_iff hs, get?_cons, find?_of_above habove] at hl
  cases hl

/-- No two values are listed under the same keys. -/
theorem nodup_leaves (hs : fields.Sorted) : (fields.leaves.map Prod.fst).Nodup := by
  induction fields with
  | nil => exact List.nodup_nil
  | leaf k value rest ih => exact List.nodup_cons.2 ⟨cons_notMem_leaves hs.1 hs.2 [], ih hs.2⟩
  | group k members rest ihm ih =>
    obtain ⟨hmembers, habove, hrest⟩ := hs
    have hkeys : (group k members rest).leaves.map Prod.fst =
        (members.leaves.map Prod.fst).map (k :: ·) ++ rest.leaves.map Prod.fst := by
      simp [leaves]
    rw [hkeys, List.nodup_append]
    refine ⟨(ihm hmembers).map List.cons_injective, ih hrest, ?_⟩
    -- what comes after the group begins with greater keys
    rintro keys hkeys _ hmem rfl
    obtain ⟨path, -, rfl⟩ := List.mem_map.1 hkeys
    exact cons_notMem_leaves habove hrest path hmem

end Fields

end Appraisal
