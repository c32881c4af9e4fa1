import Appraisal.Context.Basic

/-!
# Paths and their spellings

A dotted path stands for the row of its segments. Different paths have different segments
(`segments_injective`), no segment holds a point (`isPlain_of_mem_segments`), and a row of names
without points is the segments of one path, in which points join them (`segments_join`). The flat
spelling of a path joins its segments by underscores (`flatSpelling_eq_join`).

A row of keys in a tree is the segments of the path it is listed under as long as no key holds a
point and no empty key leads the row (`IsAddress.segments_dotted`).
-/

namespace Appraisal

/-! ### Cutting and joining -/

namespace Text

variable {sep : Char}

theorem splitOn_of_not_mem {cs : List Char} (h : sep ∉ cs) : splitOn sep cs = [cs] := by
  induction cs with
  | nil => rfl
  | cons c rest ih =>
    rw [List.mem_cons, not_or] at h
    obtain ⟨hc, hrest⟩ := h
    rw [splitOn, ih hrest]
    exact if_neg (Ne.symm hc)

/-- A text is cut as the library cuts lists. -/
theorem splitOn_eq (cs : List Char) : splitOn sep cs = cs.splitOn sep := by
  induction cs with
  | nil => rfl
  | cons c rest ih =>
    rw [List.splitOn, List.splitOnP_cons_eq_if_modifyHead, ← List.splitOn, ← ih, splitOn]
    split
    · next h => exact absurd h (splitOn_ne_nil sep rest)
    · next piece pieces h => by_cases hc : c = sep <;> simp [hc, h]

theorem not_mem_of_mem_splitOn {cs piece : List Char} (h : piece ∈ splitOn sep cs) :
    sep ∉ piece := by
  induction cs generalizing piece with
  | nil => simp_all [splitOn]
  | cons c rest ih =>
    rw [splitOn] at h
    split at h
    · next hnil => exact absurd hnil (splitOn_ne_nil sep rest)
    · next first pieces hrest =>
      rw [hrest] at ih
      split at h
      · rcases List.mem_cons.1 h with rfl | h
        · exact List.not_mem_nil
        · exact ih h
      · next hc =>
        rcases List.mem_cons.1 h with rfl | h
        · rw [List.mem_cons, not_or]
          exact ⟨Ne.symm hc, ih List.mem_cons_self⟩
        · exact ih (List.mem_cons_of_mem _ h)

theorem join_cons (sep text : String) {texts : List String} (hne : texts ≠ []) :
    join sep (text :: texts) = text ++ sep ++ join sep texts := by
  obtain ⟨next, texts, rfl⟩ := List.exists_cons_of_ne_nil hne
  rfl

theorem toList_join (sep : String) (texts : List String) :
    (join sep texts).toList = sep.toList.intercalate (texts.map String.toList) := by
  fun_induction join sep texts with
  | case1 => rfl
  | case2 s => simp
  | case3 s rest hne ih =>
    obtain ⟨t, rest, rfl⟩ := List.exists_cons_of_ne_nil hne
    simp [ih, List.intercalate_cons_cons]

end Text

/-! ### Names without points -/

/-- A name that is one segment of a path. -/
def IsPlain (name : String) : Prop := '.' ∉ name.toList

namespace IsPlain

variable {name : String}

theorem segments_eq (h : IsPlain name) : segments name = [name] := by
  rw [segments, Text.splitOn_of_not_mem h, List.map_singleton, String.ofList_toList]

theorem flatSpelling_eq (h : IsPlain name) : flatSpelling name = name := by
  have hmap : name.toList.map (fun c => if c = '.' then '_' else c) = name.toList := by
    refine (List.map_congr_left fun c hc => ?_).trans (List.map_id _)
    exact if_neg fun (heq : c = '.') => h (heq ▸ hc)
  rw [flatSpelling, hmap, String.ofList_toList]

end IsPlain

/-! ### Segments -/

variable {keys : List String}

theorem segments_ne_nil (path : String) : segments path ≠ [] := by
  simp [segments, Text.splitOn_ne_nil]

theorem isPlain_of_mem_segments {path key : String} (h : key ∈ segments path) : IsPlain key := by
  obtain ⟨piece, hpiece, rfl⟩ := List.mem_map.1 h
  rw [IsPlain, String.toList_ofList]
  exact Text.not_mem_of_mem_splitOn hpiece

/-- A path is its segments with points between them. -/
theorem join_segments (path : String) : Text.join "." (segments path) = path := by
  rw [← String.toList_inj, Text.toList_join, segments, List.map_map]
  simpa using Text.intercalate_splitOn '.' path.toList

/-- Different paths have different segments. -/
theorem segments_injective : Function.Injective segments := fun p q h => by
  rw [← join_segments p, h, join_segments]

/-- Names without points are the segments of one path. -/
theorem segments_join (h : ∀ key ∈ keys, IsPlain key) (hne : keys ≠ []) :
    segments (Text.join "." keys) = keys := by
  have hcut : Text.splitOn '.' (Text.join "." keys).toList = keys.map String.toList := by
    rw [Text.splitOn_eq, Text.toList_join]
    exact List.splitOn_intercalate '.' (List.forall_mem_map.2 h) (by simpa using hne)
  simp [segments, hcut]

/-! ### Flat spellings -/

theorem flatSpelling_append (s t : String) :
    flatSpelling (s ++ t) = flatSpelling s ++ flatSpelling t := by
  simp [flatSpelling]

theorem flatSpelling_join (h : ∀ key ∈ keys, IsPlain key) :
    flatSpelling (Text.join "." keys) = Text.join "_" keys := by
  fun_induction Text.join "." keys with
  | case1 => rfl
  | case2 key => exact (h key List.mem_cons_self).flatSpelling_eq
  | case3 key rest hne ih =>
    obtain ⟨hkey, hrest⟩ := List.forall_mem_cons.1 h
    rw [Text.join_cons _ _ hne, flatSpelling_append, flatSpelling_append, ih hrest,
      hkey.flatSpelling_eq]
    rfl

/-- The flat spelling of a path is its segments with underscores between them. -/
theorem flatSpelling_eq_join (path : String) :
    flatSpelling path = Text.join "_" (segments path) := by
  rw [← flatSpelling_join fun _ => isPlain_of_mem_segments, join_segments]

theorem isPlain_flatSpelling (path : String) : IsPlain (flatSpelling path) := by
  rw [IsPlain, flatSpelling, String.toList_ofList, List.mem_map]
  rintro ⟨c, -, hc⟩
  split at hc
  · exact absurd hc (by decide)
  · next hne => exact hne hc

/-! ### Listed paths -/

/-- Keys that a dotted path names: none of them holds a point, and no empty key leads others. -/
structure IsAddress (keys : List String) : Prop where
  plain : ∀ key ∈ keys, IsPlain key
  lead : keys.head? = some "" → keys = [""]

theorem foldl_joinPath {start : String} (h : start ≠ "") :
    keys.foldl joinPath start = Text.join "." (start :: keys) := by
  induction keys generalizing start with
  | nil => rfl
  | cons key rest ih =>
    have hne : start ++ "." ++ key ≠ "" := by simp [h]
    rw [List.foldl_cons, joinPath, if_neg h, ih hne]
    cases rest <;> simp [Text.join, String.append_assoc]

namespace IsAddress

theorem dotted_eq (h : IsAddress keys) : dotted keys = Text.join "." keys := by
  cases keys with
  | nil => rfl
  | cons key rest =>
    rw [dotted, List.foldl_cons, joinPath, if_pos rfl]
    by_cases hkey : key = ""
    · obtain rfl : rest = [] := by simpa [hkey] using h.lead
      rfl
    · exact foldl_joinPath hkey

/-- The path that keys are listed under leads along them. -/
theorem segments_dotted (h : IsAddress keys) (hne : keys ≠ []) : segments (dotted keys) = keys := by
  rw [h.dotted_eq, segments_join h.plain hne]

theorem flatSpelling_dotted (h : IsAddress keys) :
    flatSpelling (dotted keys) = Text.join "_" keys := by
  rw [h.dotted_eq, flatSpelling_join h.plain]

end IsAddress

end Appraisal
