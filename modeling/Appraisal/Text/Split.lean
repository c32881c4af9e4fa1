/-!
# Cutting and joining texts

A text is cut at every occurrence of a separator (`splitOn`) and put together again by `join`
(`intercalate_splitOn`).
-/

namespace Appraisal.Text

/-- The pieces between the occurrences of `sep`; there is always at least one. -/
def splitOn (sep : Char) : List Char → List (List Char)
  | [] => [[]]
  | c :: rest =>
    match splitOn sep rest with
    | [] => [[c]]
    | piece :: pieces => if c = sep then [] :: piece :: pieces else (c :: piece) :: pieces

theorem splitOn_ne_nil (sep : Char) (cs : List Char) : splitOn sep cs ≠ [] := by
  induction cs with
  | nil => simp [splitOn]
  | cons c rest ih =>
    rw [splitOn]
    split
    · simp
    · split <;> simp

/-- Joining the pieces gives the text back. -/
theorem intercalate_splitOn (sep : Char) (cs : List Char) :
    [sep].intercalate (splitOn sep cs) = cs := by
  induction cs with
  | nil => simp [splitOn, List.intercalate]
  | cons c rest ih =>
    rw [splitOn]
    split
    · next h => exact absurd h (splitOn_ne_nil sep rest)
    · next piece pieces h =>
      rw [h] at ih
      split
      · next hc =>
        subst hc
        rw [← ih]
        simp [List.intercalate]
      · rw [← ih]
        cases pieces <;> simp [List.intercalate]

/-- Texts one after the other, with `sep` between them. -/
def join (sep : String) : List String → String
  | [] => ""
  | [s] => s
  | s :: rest => s ++ sep ++ join sep rest

/-- What follows `start` at the front of a text. -/
def dropPrefix? : List Char → List Char → Option (List Char)
  | [], cs => some cs
  | _ :: _, [] => none
  | p :: start, c :: cs => if p = c then dropPrefix? start cs else none

/-- Only what stands before `start` in front of a text is dropped. -/
theorem dropPrefix?_eq_some_iff {start cs rest : List Char} :
    dropPrefix? start cs = some rest ↔ cs = start ++ rest := by
  induction start generalizing cs with
  | nil => simp [dropPrefix?]
  | cons p start ih =>
    cases cs with
    | nil => simp [dropPrefix?]
    | cons c cs => by_cases h : p = c <;> simp [dropPrefix?, h, ih, eq_comm]

/-- What comes before `last` at the end of a text. -/
def dropSuffix? (last cs : List Char) : Option (List Char) :=
  (dropPrefix? last.reverse cs.reverse).map List.reverse

/-- Only what stands behind is dropped. -/
theorem dropSuffix?_eq_some_iff {last cs rest : List Char} :
    dropSuffix? last cs = some rest ↔ cs = rest ++ last := by
  rw [dropSuffix?, Option.map_eq_some_iff]
  constructor
  · rintro ⟨r, h, rfl⟩
    rw [dropPrefix?_eq_some_iff] at h
    simpa using congrArg List.reverse h
  · rintro rfl
    exact ⟨rest.reverse, dropPrefix?_eq_some_iff.2 (by simp), by simp⟩

/-- Whether `part` stands somewhere in a text. -/
def contains (part : List Char) : List Char → Bool
  | [] => part.isEmpty
  | c :: cs => part.isPrefixOf (c :: cs) || contains part cs

theorem contains_iff {part cs : List Char} : contains part cs ↔ part <:+: cs := by
  induction cs with
  | nil => simp [contains]
  | cons c cs ih => simp [contains, ih, List.infix_cons_iff]

end Appraisal.Text
