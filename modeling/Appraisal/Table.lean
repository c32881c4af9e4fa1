/-!
# Tables

A table gives texts values. Its entries stand in ascending order of their keys, and a key has one
value. Looking up what was inserted (`get?_insert`) does not depend on the order; of several
entries of one key the last counts (`get?_ofList`). The order makes the entries of a table its
normal form (`ofList_entries`).
-/

namespace Appraisal

/-! ### Entries in order -/

namespace Table

variable {α : Type}

/-- Give a key a value, in place of the one it had. -/
def put (key : String) (value : α) : List (String × α) → List (String × α)
  | [] => [(key, value)]
  | (k, v) :: rest =>
    if key < k then (key, value) :: (k, v) :: rest
    else if key = k then (key, value) :: rest
    else (k, v) :: put key value rest

/-- The keys ascend. -/
def Sorted (entries : List (String × α)) : Prop := entries.Pairwise fun a b => a.1 < b.1

variable {key : String} {value : α} {entries : List (String × α)}

theorem mem_put {e : String × α} (h : e ∈ put key value entries) :
    e = (key, value) ∨ e ∈ entries := by
  induction entries with
  | nil => simpa [put] using h
  | cons entry rest ih =>
    rw [put] at h
    split at h
    · simpa using h
    · split at h
      · grind
      · grind

theorem Sorted.put (h : Sorted entries) : Sorted (put key value entries) := by
  induction entries with
  | nil => exact List.pairwise_singleton _ _
  | cons entry rest ih =>
    obtain ⟨k, v⟩ := entry
    obtain ⟨hk, hrest⟩ := List.pairwise_cons.1 h
    rw [Table.put]
    split
    · next hlt =>
      refine List.pairwise_cons.2 ⟨fun e he => ?_, h⟩
      rcases List.mem_cons.1 he with rfl | he
      · exact hlt
      · exact String.lt_trans hlt (hk e he)
    · next hnlt =>
      split
      · next heq =>
        subst heq
        exact List.pairwise_cons.2 ⟨hk, hrest⟩
      · next hne =>
        refine List.pairwise_cons.2 ⟨fun e he => ?_, ih hrest⟩
        rcases mem_put he with rfl | he
        · exact Std.lt_of_le_of_ne (String.not_lt.1 hnlt) (Ne.symm hne)
        · exact hk e he

theorem lookup_cons_eq (q k : String) (v : α) (rest : List (String × α)) :
    List.lookup q ((k, v) :: rest) = if q = k then some v else rest.lookup q := by
  rw [List.lookup_cons]
  by_cases h : q = k
  · simp [h]
  · simp [h, beq_false_of_ne h]

theorem lookup_put (q : String) :
    (put key value entries).lookup q = if q = key then some value else entries.lookup q := by
  induction entries with
  | nil => rw [put, lookup_cons_eq]
  | cons entry rest ih =>
    obtain ⟨k, v⟩ := entry
    rw [put]
    split
    · rw [lookup_cons_eq]
    · split
      · next heq =>
        subst heq
        rw [lookup_cons_eq, lookup_cons_eq]
        split <;> simp_all
      · next hne =>
        rw [lookup_cons_eq, lookup_cons_eq, ih]
        by_cases hk : q = k
        · simp [hk, Ne.symm hne]
        · simp [hk]

/-- A key above all others is put last. -/
theorem put_of_forall_lt (h : ∀ e ∈ entries, e.1 < key) :
    put key value entries = entries ++ [(key, value)] := by
  induction entries with
  | nil => rfl
  | cons entry rest ih =>
    have hlt := h entry List.mem_cons_self
    rw [put, if_neg (String.lt_asymm hlt), if_neg (String.ne_of_lt hlt).symm]
    simp [ih fun e he => h e (List.mem_cons_of_mem _ he)]

end Table

/-! ### Tables -/

/-- Values under texts, in the order of the texts. -/
structure Table (α : Type) where
  entries : List (String × α)
  sorted : Table.Sorted entries

namespace Table

variable {α : Type}

/-- The table without entries. -/
def empty : Table α := ⟨[], List.Pairwise.nil⟩

instance : Inhabited (Table α) := ⟨empty⟩

/-- Whether a table has no entries. -/
def isEmpty (t : Table α) : Bool := t.entries.isEmpty

/-- The value of a key. -/
def get? (t : Table α) (key : String) : Option α := t.entries.lookup key

/-- Give a key a value, in place of the one it had. -/
def insert (key : String) (value : α) (t : Table α) : Table α :=
  ⟨put key value t.entries, t.sorted.put⟩

/-- The table of some entries, of which a later one replaces an earlier one of the same key. -/
def ofList (entries : List (String × α)) : Table α :=
  entries.foldl (fun t entry => t.insert entry.1 entry.2) empty

theorem ext {s t : Table α} (h : s.entries = t.entries) : s = t := by
  cases s; cases t; cases h; rfl

theorem get?_insert (t : Table α) (key q : String) (value : α) :
    (t.insert key value).get? q = if q = key then some value else t.get? q :=
  lookup_put q

theorem get?_foldl_insert {more : List (String × α)} (t : Table α) (q : String) :
    (more.foldl (fun t entry => t.insert entry.1 entry.2) t).get? q =
      (more.reverse.lookup q).or (t.get? q) := by
  induction more generalizing t with
  | nil => rfl
  | cons entry rest ih =>
    obtain ⟨key, value⟩ := entry
    rw [List.foldl_cons, ih, get?_insert, List.reverse_cons, List.lookup_append, lookup_cons_eq,
      Option.or_assoc, List.lookup_nil]
    split <;> rfl

/-- Of the entries of a key the last one gives its value. -/
theorem get?_ofList (entries : List (String × α)) (q : String) :
    (ofList entries).get? q = entries.reverse.lookup q :=
  (get?_foldl_insert empty q).trans Option.or_none

theorem mem_of_mem_foldl_insert {more : List (String × α)} {t : Table α} {e : String × α}
    (h : e ∈ (more.foldl (fun t entry => t.insert entry.1 entry.2) t).entries) :
    e ∈ more ∨ e ∈ t.entries := by
  induction more generalizing t with
  | nil => exact .inr h
  | cons entry rest ih =>
    rcases ih h with h | h
    · exact .inl (List.mem_cons_of_mem _ h)
    · rcases mem_put h with rfl | h
      · exact .inl List.mem_cons_self
      · exact .inr h

theorem mem_of_mem_ofList {entries : List (String × α)} {e : String × α}
    (h : e ∈ (ofList entries).entries) : e ∈ entries :=
  (mem_of_mem_foldl_insert h).resolve_right List.not_mem_nil

theorem entries_foldl_insert {more : List (String × α)} {t : Table α}
    (h : Sorted (t.entries ++ more)) :
    (more.foldl (fun t entry => t.insert entry.1 entry.2) t).entries = t.entries ++ more := by
  induction more generalizing t with
  | nil => simp
  | cons entry rest ih =>
    have hput : (t.insert entry.1 entry.2).entries = t.entries ++ [entry] :=
      put_of_forall_lt fun e he =>
        (List.pairwise_append.1 h).2.2 e he entry List.mem_cons_self
    rw [List.foldl_cons, ih (by simpa [hput] using h), hput]
    simp

/-- A table is made again from its entries. -/
theorem ofList_entries (t : Table α) : ofList t.entries = t :=
  ext (entries_foldl_insert (by simpa [empty] using t.sorted))

end Table

end Appraisal
