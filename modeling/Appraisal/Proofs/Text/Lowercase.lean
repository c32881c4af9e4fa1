import Appraisal.Text.Lowercase
import Mathlib.Data.List.DropRight

/-!
# Lower case once and for all

Lower-casing a text in lower case changes nothing (`lowercase_lowercase`), and the ends of a text
without blanks stay without blanks (`Trimmed.lowerFrom`). So the key of a text is its own key
(`tableKey_tableKey`): a text that was brought to its normal form is found again by it.

Both rest on where the table of capital letters leads (`lowered_of_moved`): no letter moves to a
place from which the table moves on (`clears_lowercaseShifts`), nor to a blank, a capital letter of
ASCII or one of the two letters with a rule of their own (`avoids_unreached`).
-/

namespace Appraisal.Text

/-! ### Where letters move to -/

namespace Shift

variable {s t : Shift} {n m : Nat} {r : Nat × Nat}

/-- The range lies aside from where `s` moves its code points. -/
def avoids (s : Shift) (r : Nat × Nat) : Bool :=
  Nat.blt r.2 (s.first + s.distance).toNat || Nat.blt (s.last + s.distance).toNat r.1

/-- `t` moves on no code point that `s` moved: it lies aside, or it covers every other code point
and `s` leads to those between. -/
def clears (s t : Shift) : Bool :=
  s.avoids (t.first, t.last) ||
    ((s.stride == 2 || s.first == s.last) && t.stride == 2 &&
      (s.first + s.distance - t.first) % 2 == 1)

theorem covers_iff :
    s.covers n = true ↔ s.first ≤ n ∧ n ≤ s.last ∧ (n - s.first) % s.stride = 0 := by
  simp [covers, and_assoc]

theorem not_mem_of_avoids (hs : s.covers n = true) (hm : (m : Int) = n + s.distance)
    (h : s.avoids r = true) : m < r.1 ∨ r.2 < m := by
  obtain ⟨hfirst, hlast, -⟩ := covers_iff.1 hs
  simp only [avoids, Bool.or_eq_true, Nat.blt_eq] at h
  omega

theorem nonneg_of_avoids (hs : s.covers n = true) (h : s.avoids (0, m) = true) :
    0 ≤ (n : Int) + s.distance := by
  obtain ⟨hfirst, -, -⟩ := covers_iff.1 hs
  simp only [avoids, Bool.or_eq_true, Nat.blt_eq] at h
  omega

theorem covers_eq_false_of_clears (hs : s.covers n = true) (hm : (m : Int) = n + s.distance)
    (h : s.clears t = true) : t.covers m = false := by
  rw [Bool.eq_false_iff]
  intro ht
  obtain ⟨hfirst, hlast, heven⟩ := covers_iff.1 ht
  obtain ⟨hsfirst, hslast, hseven⟩ := covers_iff.1 hs
  rcases Bool.or_eq_true_iff.1 h with haside | hbetween
  · have := not_mem_of_avoids hs hm haside
    omega
  · simp only [Bool.and_eq_true, Bool.or_eq_true, beq_iff_eq] at hbetween
    obtain ⟨⟨hevery, htwo⟩, hodd⟩ := hbetween
    rw [htwo] at heven
    rcases hevery with hstride | hone
    · rw [hstride] at hseven
      omega
    · omega

end Shift

/-- Code points that no letter moves to: those of ASCII up to its capital letters, the dotted
capital I, the capital sigma, and blanks. -/
def unreached : List (Nat × Nat) :=
  [(0, 0x5a), (0x85, 0x85), (0xa0, 0xa0), (0x130, 0x130), (0x3a3, 0x3a3), (0x1680, 0x1680),
    (0x2000, 0x205f), (0x3000, 0x3000)]

theorem avoids_unreached : ∀ s ∈ lowercaseShifts.toList, ∀ r ∈ unreached, s.avoids r = true := by
  decide +kernel

-- Ranges are compared, not code points: there are too many of these to go through one by one.
theorem clears_lowercaseShifts :
    ∀ s ∈ lowercaseShifts.toList, (lowercaseShifts.toList.all fun t => s.clears t) = true := by
  decide +kernel

/-! ### Characters -/

/-- A character that lower-casing leaves as it is, wherever it stands. -/
def IsSettled (c : Char) : Prop := lowerChar c = [c] ∧ c ≠ 'Σ'

instance (c : Char) : Decidable (IsSettled c) := inferInstanceAs (Decidable (_ ∧ _))

/-- What becomes of a character in lower case: it is settled, and no blank if there was none. -/
structure Lowered (c d : Char) : Prop where
  settled : IsSettled d
  blank : isBlank c = false → isBlank d = false

instance (c d : Char) : Decidable (Lowered c d) :=
  decidable_of_iff (IsSettled d ∧ (isBlank c = false → isBlank d = false))
    ⟨fun ⟨hs, hb⟩ => ⟨hs, hb⟩, fun ⟨hs, hb⟩ => ⟨hs, hb⟩⟩

variable {c d : Char}

theorem lowered_ascii : ∀ n < 0x80, Lowered (Char.ofNat n) (Char.ofNat n).toLower := by
  decide +kernel

theorem toNat_ofNat_or (n : Nat) : (Char.ofNat n).toNat = n ∨ Char.ofNat n = '\x00' := by
  by_cases hvalid : n.isValidChar
  · exact .inl (congrArg Char.toNat (dif_pos hvalid))
  · exact .inr (dif_neg hvalid)

theorem isBlank_of_unreached (h : ∀ r ∈ unreached, d.toNat < r.1 ∨ r.2 < d.toNat) :
    isBlank d = false := by
  simp only [unreached, List.forall_mem_cons] at h
  simp only [isBlank, Bool.or_eq_false_iff, Bool.and_eq_false_iff, decide_eq_false_iff_not,
    beq_eq_false_iff_ne, ne_eq]
  omega

/-- A letter that the table does not move on is settled, unless a rule of its own moves it. -/
theorem isSettled_of_unreached (hout : ∀ r ∈ unreached, d.toNat < r.1 ∨ r.2 < d.toNat)
    (hrest : ∀ t ∈ lowercaseShifts.toList, t.covers d.toNat = false) : IsSettled d := by
  simp only [unreached, List.forall_mem_cons] at hout
  obtain ⟨hascii, -, -, hdotted, hsigma, -⟩ := hout
  have hne (e : Char) (h : d.toNat < e.toNat ∨ e.toNat < d.toNat) : d ≠ e := by
    rintro rfl
    omega
  have hlower : d.toLower = d := dif_neg fun ⟨_, hZ⟩ => by
    have : d.toNat ≤ 0x5a := hZ
    omega
  refine ⟨?_, hne 'Σ' hsigma⟩
  rw [lowerChar]
  split
  · rw [hlower]
  · rw [if_neg (hne 'İ' hdotted), shiftChar,
      Array.find?_eq_none.2 fun t ht => by simp [hrest t (Array.mem_toList_iff.2 ht)]]

theorem lowered_of_unreached (hout : ∀ r ∈ unreached, d.toNat < r.1 ∨ r.2 < d.toNat)
    (hrest : ∀ t ∈ lowercaseShifts.toList, t.covers d.toNat = false) : Lowered c d where
  settled := isSettled_of_unreached hout hrest
  blank _ := isBlank_of_unreached hout

/-- Where the table moves a letter, the letter stays. -/
theorem lowered_of_moved {s : Shift} (hs : s ∈ lowercaseShifts.toList)
    (hc : s.covers c.toNat = true) :
    Lowered c (Char.ofNat ((c.toNat : Int) + s.distance).toNat) := by
  have havoids := avoids_unreached s hs
  obtain ⟨m, hm⟩ : ∃ m : Nat, (m : Int) = c.toNat + s.distance :=
    ⟨_, Int.toNat_of_nonneg (Shift.nonneg_of_avoids hc (havoids (0, 0x5a) (by decide)))⟩
  rw [← hm, Int.toNat_natCast]
  -- The second case does not occur, but its character is settled too.
  rcases toNat_ofNat_or m with hd | hd
  · refine lowered_of_unreached (fun r hr => ?_) fun t ht => ?_
    · rw [hd]
      exact Shift.not_mem_of_avoids hc hm (havoids r hr)
    · rw [hd]
      exact Shift.covers_eq_false_of_clears hc hm
        (List.all_eq_true.1 (clears_lowercaseShifts s hs) t ht)
  · rw [hd]
    exact ⟨by decide, fun _ => by decide⟩

theorem lowered_of_mem_lowerChar (hsigma : c ≠ 'Σ') (h : d ∈ lowerChar c) : Lowered c d := by
  rw [lowerChar] at h
  split at h
  · next hascii =>
    rw [List.mem_singleton] at h
    subst h
    simpa using lowered_ascii c.toNat hascii
  next hascii =>
  split at h
  · next hdotted =>
    rcases List.mem_pair.1 h with rfl | rfl
    · exact ⟨by decide, fun _ => by decide⟩
    · exact lowered_of_unreached (by decide +kernel) (by decide +kernel)
  · next hdotted =>
    rw [List.mem_singleton, shiftChar] at h
    split at h
    · next s hfind =>
      subst h
      have hcovers := Array.find?_some hfind
      exact lowered_of_moved (Array.mem_toList_iff.2 (Array.mem_of_find?_eq_some hfind)) hcovers
    · next hfind =>
      subst h
      refine ⟨⟨?_, hsigma⟩, id⟩
      rw [lowerChar, if_neg hascii, if_neg hdotted, shiftChar, hfind]

/-! ### Texts -/

/-- The lower case form of a character between others. -/
def lowerAt (before : List Char) (c : Char) (rest : List Char) : List Char :=
  if c = 'Σ' then [if endsWord before rest then 'ς' else 'σ'] else lowerChar c

variable {before rest cs : List Char}

theorem lowerFrom_cons :
    lowerFrom before (c :: rest) = lowerAt before c rest ++ lowerFrom (c :: before) rest := rfl

theorem lowerAt_ne_nil : lowerAt before c rest ≠ [] := by
  unfold lowerAt lowerChar
  repeat' split
  all_goals simp

theorem lowered_of_mem_lowerAt (h : d ∈ lowerAt before c rest) : Lowered c d := by
  rw [lowerAt] at h
  split at h
  · rw [List.mem_singleton] at h
    split at h <;> subst h <;> exact lowered_of_unreached (by decide +kernel) (by decide +kernel)
  · next hsigma => exact lowered_of_mem_lowerChar hsigma h

theorem isSettled_of_mem_lowerFrom (h : d ∈ lowerFrom before cs) : IsSettled d := by
  induction cs generalizing before with
  | nil => cases h
  | cons c rest ih =>
    rcases List.mem_append.1 h with h | h
    · exact (lowered_of_mem_lowerAt h).settled
    · exact ih h

/-- Settled characters stay as they are in every text. -/
theorem lowerFrom_of_isSettled (h : ∀ c ∈ cs, IsSettled c) : lowerFrom before cs = cs := by
  induction cs generalizing before with
  | nil => rfl
  | cons c rest ih =>
    obtain ⟨⟨hlower, hsigma⟩, hrest⟩ := List.forall_mem_cons.1 h
    rw [lowerFrom_cons, lowerAt, if_neg hsigma, hlower, ih hrest, List.singleton_append]

/-- **Lower-casing a text in lower case changes nothing.** -/
theorem lowercase_lowercase (s : String) : lowercase (lowercase s) = lowercase s := by
  rw [lowercase, lowercase, String.toList_ofList,
    lowerFrom_of_isSettled fun d hd => isSettled_of_mem_lowerFrom hd]

/-! ### The ends of texts -/

/-- There are no blanks at either end. -/
structure Trimmed (cs : List Char) : Prop where
  head : ∀ h : cs ≠ [], isBlank (cs.head h) = false
  last : ∀ h : cs ≠ [], isBlank (cs.getLast h) = false

theorem toList_trim (s : String) :
    (trim s).toList = (s.toList.dropWhile isBlank).rdropWhile isBlank :=
  String.toList_ofList

theorem trimmed_trim (s : String) : Trimmed (trim s).toList := by
  rw [toList_trim]
  constructor
  · intro h
    rw [(List.rdropWhile_prefix isBlank _).head h]
    exact List.head_dropWhile_not isBlank _
  · intro h
    exact Bool.eq_false_iff.2 (List.rdropWhile_last_not isBlank _ h)

theorem trim_of_trimmed {s : String} (h : Trimmed s.toList) : trim s = s := by
  have hfront : s.toList.dropWhile isBlank = s.toList := by
    refine List.dropWhile_eq_self_iff.2 fun hpos => ?_
    rw [List.getElem_zero_eq_head, h.head]
    exact Bool.false_ne_true
  have hback : s.toList.rdropWhile isBlank = s.toList :=
    List.rdropWhile_eq_self_iff.2 fun hne => by simp [h.last hne]
  rw [← String.toList_inj, toList_trim, hfront, hback]

theorem lowerFrom_ne_nil (h : cs ≠ []) : lowerFrom before cs ≠ [] := by
  obtain ⟨c, rest, rfl⟩ := List.exists_cons_of_ne_nil h
  exact List.append_ne_nil_of_left_ne_nil lowerAt_ne_nil _

theorem lowered_head (h : cs ≠ []) :
    Lowered (cs.head h) ((lowerFrom before cs).head (lowerFrom_ne_nil h)) := by
  obtain ⟨c, rest, rfl⟩ := List.exists_cons_of_ne_nil h
  simp only [lowerFrom_cons, List.head_append_of_ne_nil lowerAt_ne_nil]
  exact lowered_of_mem_lowerAt (List.head_mem _)

theorem lowered_getLast (h : cs ≠ []) :
    Lowered (cs.getLast h) ((lowerFrom before cs).getLast (lowerFrom_ne_nil h)) := by
  induction cs generalizing before with
  | nil => exact absurd rfl h
  | cons c rest ih =>
    by_cases hrest : rest = []
    · subst hrest
      simp only [lowerFrom, List.append_nil]
      exact lowered_of_mem_lowerAt (List.getLast_mem _)
    · simp only [lowerFrom_cons, List.getLast_append_of_ne_nil _ (lowerFrom_ne_nil hrest),
        List.getLast_cons hrest]
      exact ih hrest

/-- In lower case no blanks come to the ends of a text. -/
theorem Trimmed.lowerFrom (h : Trimmed cs) : Trimmed (lowerFrom before cs) := by
  by_cases hcs : cs = []
  · subst hcs
    exact h
  · exact ⟨fun _ => (lowered_head hcs).blank (h.head hcs),
      fun _ => (lowered_getLast hcs).blank (h.last hcs)⟩

/-- **The key of a text is its own key.** -/
theorem tableKey_tableKey (s : String) : tableKey (tableKey s) = tableKey s := by
  have htrimmed : Trimmed (tableKey s).toList := by
    rw [tableKey, lowercase, String.toList_ofList]
    exact (trimmed_trim s).lowerFrom
  rw [tableKey, trim_of_trimmed htrimmed, tableKey, lowercase_lowercase]

/-- The dotted capital I leaves its dot behind as a character of its own. -/
example : tableKey "\tİPAD " = "i\u0307pad" := by decide +kernel

end Appraisal.Text
