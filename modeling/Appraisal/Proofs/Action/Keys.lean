import Appraisal.Proofs.Action.Isolation
import Appraisal.Proofs.Text.Lowercase

/-!
# Keys that match whatever their case

A factor is looked up under the key of a value, which is in its normal form. First the table is
asked for that key; then its entries are gone through for one whose key has that normal form. The
two steps together find a factor just if there is such an entry (`isSome_factor?_iff`), in every
table, since a key in its normal form is its own.

A table that was built from entries has its keys in their normal form already, and the second step
finds nothing there that the first one misses (`factor?_keyed`). Of several entries whose keys have
one normal form the last one counts (`factor?_keyed_eq_some_iff`).

So no spelling of a value passes by an entry that is there for it
(`Modifiers.finds_factor_of_value`), and a stage of modification is left out only for want of a
value or of an entry (`FieldMultiplier.isSome_factor_iff`, `Modifiers.isSome_conditionFactor_iff`,
`Modifiers.isSome_brandFactor_iff`).
-/

namespace Appraisal

open Text (tableKey)

namespace Modifiers

variable {table : Table Float} {entries : List (String × Float)} {key : String} {factor : Float}

/-! ### Any table -/

theorem factor?_eq (table : Table Float) (key : String) : factor? table key =
    (table.get? key).or ((table.entries.find? fun e => tableKey e.1 == key).map Prod.snd) := by
  rw [factor?]
  cases table.get? key <;> rfl

/-- What is found under a key in its normal form is the factor of an entry of that normal form. -/
theorem exists_of_factor? (hkey : tableKey key = key) (h : factor? table key = some factor) :
    ∃ k, (k, factor) ∈ table.entries ∧ tableKey k = key := by
  rw [factor?_eq, Option.or_eq_some_iff] at h
  rcases h with h | ⟨-, h⟩
  · obtain ⟨front, back, hentries, -⟩ := List.lookup_eq_some_iff.1 h
    exact ⟨key, by simp [hentries], hkey⟩
  · obtain ⟨⟨k, _⟩, hfind, rfl⟩ := Option.map_eq_some_iff.1 h
    exact ⟨k, List.mem_of_find?_eq_some hfind, by simpa using List.find?_some hfind⟩

theorem isSome_factor?_iff (hkey : tableKey key = key) :
    (factor? table key).isSome = true ↔ ∃ e ∈ table.entries, tableKey e.1 = key := by
  constructor
  · intro h
    obtain ⟨factor, hfactor⟩ := Option.isSome_iff_exists.1 h
    obtain ⟨k, hmem, hk⟩ := exists_of_factor? hkey hfactor
    exact ⟨(k, factor), hmem, hk⟩
  · rintro ⟨e, he, hk⟩
    rw [factor?_eq, Option.isSome_or, Option.isSome_map, Bool.or_eq_true, List.find?_isSome]
    exact .inr ⟨e, he, by simpa using hk⟩

/-! ### Tables built from entries -/

/-- The factor belongs to the last entry whose key has the normal form `key`. -/
def IsLast (entries : List (String × Float)) (key : String) (factor : Float) : Prop :=
  ∃ before k after, entries = before ++ (k, factor) :: after ∧ tableKey k = key ∧
    ∀ e ∈ after, tableKey e.1 ≠ key

theorem tableKey_of_mem_keyed {e : String × Float} (h : e ∈ (keyed entries).entries) :
    tableKey e.1 = e.1 := by
  obtain ⟨entry, -, rfl⟩ := List.mem_map.1 (Table.mem_of_mem_ofList h)
  exact Text.tableKey_tableKey entry.1

/-- Once all keys are in their normal form, there is no key to find but the one looked up. -/
theorem factor?_keyed (entries : List (String × Float)) (key : String) :
    factor? (keyed entries) key = (keyed entries).get? key := by
  rw [factor?_eq]
  cases hget : (keyed entries).get? key with
  | some factor => rfl
  | none =>
    have hscan : (keyed entries).entries.find? (fun e => tableKey e.1 == key) = none := by
      refine List.find?_eq_none.2 fun e he => ?_
      have hne := bne_iff_ne.1 (List.lookup_eq_none_iff.1 hget e he)
      rw [tableKey_of_mem_keyed he, beq_iff_eq]
      exact hne.symm
    rw [hscan]
    rfl

theorem get?_keyed (entries : List (String × Float)) (key : String) :
    (keyed entries).get? key =
      (entries.reverse.find? fun e => tableKey e.1 == key).map Prod.snd := by
  rw [keyed, Table.get?_ofList, ← List.map_reverse]
  induction entries.reverse with
  | nil => rfl
  | cons e rest ih =>
    rw [List.map_cons, Table.lookup_cons_eq, ih, List.find?_cons]
    by_cases he : key = tableKey e.1
    · simp [he]
    · simp [he, beq_false_of_ne (Ne.symm he)]

theorem factor?_keyed_eq_some_iff :
    factor? (keyed entries) key = some factor ↔ IsLast entries key factor := by
  rw [factor?_keyed, get?_keyed, Option.map_eq_some_iff]
  constructor
  · rintro ⟨⟨k, factor⟩, hfind, rfl⟩
    obtain ⟨hk, after, before, hentries, hafter⟩ := List.find?_eq_some_iff_append.1 hfind
    refine ⟨before.reverse, k, after.reverse, ?_, by simpa using hk, fun e he => ?_⟩
    · rw [← List.reverse_reverse entries, hentries]
      simp
    · simpa using hafter e (List.mem_reverse.1 he)
  · rintro ⟨before, k, after, rfl, hk, hafter⟩
    refine ⟨(k, factor), List.find?_eq_some_iff_append.2
      ⟨by simpa using hk, after.reverse, before.reverse, by simp, fun e he => ?_⟩, rfl⟩
    simpa using hafter e (List.mem_reverse.1 he)

theorem isSome_factor?_keyed_iff :
    (factor? (keyed entries) key).isSome = true ↔ ∃ e ∈ entries, tableKey e.1 = key := by
  rw [factor?_keyed, get?_keyed, Option.isSome_map, List.find?_isSome]
  simp

/-! ### Values of fields -/

/-- **The value of a field finds the factor of the last entry that is there for it**, in a table
built from entries, and finds a factor in any other table just if one is there for it. -/
theorem finds_factor_of_value {context : Context} {path : String} {v : Value}
    (hfield : context.lookup? path = some v) (hvalue : v.isNull = false) :
    ∃ key, context.keyAt? path = some key ∧
      (∀ entries : List (String × Float),
        ((factor? (keyed entries) key).isSome = true ↔
          ∃ e ∈ entries, tableKey e.1 = tableKey v.plainText) ∧
        ∀ factor, factor? (keyed entries) key = some factor ↔
          IsLast entries (tableKey v.plainText) factor) ∧
      ∀ table : Table Float,
        ((factor? table key).isSome = true ↔
          ∃ e ∈ table.entries, tableKey e.1 = tableKey v.plainText) ∧
        ∀ factor, factor? table key = some factor →
          ∃ k, (k, factor) ∈ table.entries ∧ tableKey k = tableKey v.plainText := by
  have hkey : tableKey (tableKey v.plainText) = tableKey v.plainText := Text.tableKey_tableKey _
  refine ⟨tableKey v.plainText, ?_, fun entries => ⟨?_, fun factor => ?_⟩,
    fun table => ⟨?_, fun factor h => ?_⟩⟩
  · simp [Context.keyAt?, hfield, hvalue]
  · exact isSome_factor?_keyed_iff
  · exact factor?_keyed_eq_some_iff
  · exact isSome_factor?_iff hkey
  · exact exists_of_factor? hkey h

/-- Three spellings of one key, of which the last one built into a table counts. -/
theorem finds_factor_of_value_used :
    let context := Context.empty.insert "condition" (.string " USED\t")
    context.lookup? "condition" = some (.string " USED\t") ∧
      ∃ key, context.keyAt? "condition" = some key ∧
        factor? (keyed [("Used", 0.5), ("new", 1.0), ("used ", 0.25)]) key = some 0.25 ∧
        (factor? ((Table.empty.insert "New" 1.0).insert "Used" 0.5) key).isSome = true := by
  intro context
  have hfield : context.lookup? "condition" = some (.string " USED\t") := rfl
  obtain ⟨key, hkey, hkeyed, hany⟩ := finds_factor_of_value hfield rfl
  refine ⟨hfield, key, hkey, ?_, ?_⟩
  · exact ((hkeyed _).2 _).2
      ⟨[("Used", 0.5), ("new", 1.0)], "used ", [], rfl, by decide +kernel, by simp⟩
  · exact (hany _).1.2
      ⟨("Used", 0.5), List.mem_cons_of_mem _ List.mem_cons_self, by decide +kernel⟩

end Modifiers

/-! ### Stages -/

namespace Context

variable {context : Context} {path key : String} {table : Table Float}

/-- A field has a value. -/
def Has (context : Context) (path : String) : Prop :=
  ∃ v, context.lookup? path = some v ∧ v.isNull = false

/-- A field has a value that an entry of a table is there for. -/
def Picks (context : Context) (path : String) (table : Table Float) : Prop :=
  ∃ v, context.lookup? path = some v ∧ v.isNull = false ∧
    ∃ e ∈ table.entries, tableKey e.1 = tableKey v.plainText

theorem keyAt?_eq_some_iff : context.keyAt? path = some key ↔
    ∃ v, context.lookup? path = some v ∧ v.isNull = false ∧ tableKey v.plainText = key := by
  simp [keyAt?, and_assoc]

theorem exists_keyAt?_iff : (∃ key, context.keyAt? path = some key) ↔ context.Has path := by
  simp [keyAt?_eq_some_iff, Has]

theorem exists_factor?_iff :
    (∃ key, context.keyAt? path = some key ∧ (Modifiers.factor? table key).isSome = true) ↔
      context.Picks path table := by
  simp only [keyAt?_eq_some_iff, Picks]
  constructor
  · rintro ⟨_, ⟨v, hfield, hvalue, rfl⟩, hfactor⟩
    exact ⟨v, hfield, hvalue, (Modifiers.isSome_factor?_iff (Text.tableKey_tableKey _)).1 hfactor⟩
  · rintro ⟨v, hfield, hvalue, hentry⟩
    exact ⟨_, ⟨v, hfield, hvalue, rfl⟩,
      (Modifiers.isSome_factor?_iff (Text.tableKey_tableKey _)).2 hentry⟩

end Context

variable {settings : Settings} {context : Context} {m : Modifiers}

/-- A field multiplies a value unless it is empty, or has neither an entry nor a default. -/
theorem FieldMultiplier.isSome_factor_iff {f : FieldMultiplier} :
    (f.factor context).isSome = true ↔
      context.Picks f.field f.table ∨ (f.default.isSome = true ∧ context.Has f.field) := by
  rw [← Context.exists_factor?_iff, ← Context.exists_keyAt?_iff, factor]
  cases context.keyAt? f.field <;> cases f.default <;> simp [Option.isSome_bind]

namespace Modifiers

theorem isSome_conditionFactor_iff : (m.conditionFactor settings context).isSome = true ↔
    context.Picks settings.conditionField m.condition := by
  rw [← Context.exists_factor?_iff, conditionFactor]
  cases context.keyAt? settings.conditionField <;> simp [Option.isSome_bind]

/-- The model or a brand multiplies a value unless none of them has an entry. -/
theorem isSome_brandFactor_iff : (m.brandFactor settings context).isSome = true ↔
    ∃ field ∈ settings.modelField.toList ++ settings.brandFields,
      context.Picks field m.brand := by
  simp only [← Context.exists_factor?_iff, brandFactor, List.findSome?_isSome_iff]
  refine exists_congr fun field => and_congr_right fun _ => ?_
  cases context.keyAt? field <;> simp [Option.isSome_bind]

end Modifiers

end Appraisal
