import Appraisal.Proofs.Context.Leaves
import Appraisal.Proofs.Context.Paths

/-!
# Putting a value into a listing

A value that is put at a path is found there and takes the place of all that stood in its way: the
values at the beginnings of the path and at its continuations. Any other path leads to what it led
to before (`Context.insert_effect`).

* Putting an entry under a key changes what that key names, and nothing else
  (`Fields.find?_put`).
* Along a path this is so for every group on the way (`Fields.get?_insert`).
-/

namespace Appraisal

namespace Fields

variable {fields : Fields} {key : String} {entry : Entry} {path : List String} {value : Value}

/-! ### One key -/

@[simp] theorem find?_cons (q : String) :
    (fields.cons key entry).find? q = if key = q then some entry else fields.find? q := by
  cases entry <;> rfl

/-- Only the key under which an entry is put names another one afterwards. -/
theorem find?_put (q : String) :
    (fields.put key entry).find? q = if key = q then some entry else fields.find? q := by
  induction fields with
  | nil => rw [put, find?_cons]
  | leaf k _ rest ih | group k _ rest _ ih =>
    rw [put]
    split
    · rw [find?_cons]
    · split
      · next heq =>
        subst heq
        rw [find?_cons, find?]
        split <;> rfl
      · next hne =>
        rw [find?, find?, ih]
        by_cases hk : k = q
        · rw [if_pos hk, if_neg fun heq => hne (heq.trans hk.symm), if_pos hk]
        · rw [if_neg hk, if_neg hk]

/-! ### A path of keys -/

theorem insert_cons : fields.insert (key :: path) value = fields.put key
    (if path = [] then .leaf value
      else .group (((fields.group? key).getD nil).insert path value)) := by
  cases path <;> rfl

/-- A group is gone on with, and a value is taken for a group without members. -/
theorem get?_group?_getD (hpath : path ≠ []) :
    ((fields.group? key).getD nil).get? path = (fields.find? key).bind (Entry.get? path) := by
  have hnil : nil.get? path = none := by
    obtain ⟨next, path, rfl⟩ := List.exists_cons_of_ne_nil hpath
    exact get?_cons
  rw [group?]
  cases fields.find? key with
  | none => exact hnil
  | some entry =>
    cases entry with
    | leaf v => simpa [Entry.get?, hpath] using hnil
    | group members => rfl

/-- A value that is put at the end of a path is there, and no value is at a beginning or at a
continuation of the path. All other paths lead where they led before. -/
theorem get?_insert (hpath : path ≠ []) (q : List String) :
    (fields.insert path value).get? q =
      if q = path then some value
      else if q <+: path ∨ path <+: q then none
      else fields.get? q := by
  induction path generalizing fields q with
  | nil => exact absurd rfl hpath
  | cons key path ih =>
    cases q with
    | nil => simp [get?]
    | cons k q =>
      rw [insert_cons, get?_cons, get?_cons, find?_put]
      by_cases hk : key = k
      · subst hk
        simp only [if_pos, Option.bind_some, List.cons.injEq, true_and, List.cons_prefix_cons]
        by_cases hend : path = []
        · subst hend
          simp [Entry.get?]
        · rw [if_neg hend, Entry.get?, ih hend]
          by_cases hq : q = []
          · simp [hq, Ne.symm hend]
          · rw [get?_group?_getD hq]
      · simp [hk, Ne.symm hk]

end Fields

/-- **A value that is put into a listing changes what its path leads to and nothing beside it.**
Different paths have different segments, so the second case is that of the paths whose segments
are the beginning of those of `p`, or the other way round. -/
theorem Context.insert_effect (context : Context) (p q : String) (value : Value) :
    (context.insert p value).get? q =
      if q = p then some value
      else if segments q <+: segments p ∨ segments p <+: segments q then none
      else context.get? q := by
  rw [get?, insert, Fields.get?_insert (segments_ne_nil p), get?]
  simp only [segments_injective.eq_iff]

/-- A value gives place to a group of its name, and other fields stay. -/
example :
    let context := (Context.empty.insert "ram_gb" (.int 16)).insert "cpu" (.bool true)
    let inserted := context.insert "cpu.cores" (.int 8)
    (inserted.get? "cpu.cores", inserted.get? "cpu", inserted.get? "ram_gb") =
      (some (.int 8), none, some (.int 16)) := by rfl

end Appraisal
