/-!
# Sets of characters

What one place of a pattern may match. A set is kept as its runs of successive code points, in
ascending order and with a gap between two of them. `contains_union`, `contains_complement` and
`contains_inter` say what the operations do to the members.
-/

namespace Appraisal

/-- The runs start at `n` or later, each with a first and a last code point, and leave a gap
before the next. -/
def RunsAscend : (n : Nat) → List (Nat × Nat) → Prop
  | _, [] => True
  | n, (first, last) :: rest => n ≤ first ∧ first ≤ last ∧ RunsAscend (last + 2) rest

theorem RunsAscend.mono {m n : Nat} {runs : List (Nat × Nat)} (h : RunsAscend n runs)
    (hm : m ≤ n) : RunsAscend m runs := by
  cases runs with
  | nil => trivial
  | cons r rest => exact ⟨Nat.le_trans hm h.1, h.2⟩

/-- The runs start at `n` or later, each no earlier than the one before. -/
def FirstsAscend : (n : Nat) → List (Nat × Nat) → Prop
  | _, [] => True
  | n, r :: rest => n ≤ r.1 ∧ FirstsAscend r.1 rest

theorem FirstsAscend.mono {m n : Nat} {runs : List (Nat × Nat)} (h : FirstsAscend n runs)
    (hm : m ≤ n) : FirstsAscend m runs := by
  cases runs with
  | nil => trivial
  | cons r rest => exact ⟨Nat.le_trans hm h.1, h.2⟩

/-- Runs with gaps between them ascend by their first code points. -/
theorem RunsAscend.firstsAscend {n : Nat} {runs : List (Nat × Nat)} (h : RunsAscend n runs) :
    FirstsAscend n runs := by
  induction runs generalizing n with
  | nil => trivial
  | cons r rest ih =>
    have h12 := h.2.1
    exact ⟨h.1, (ih h.2.2).mono (by omega)⟩

theorem RunsAscend.first_le_last {n : Nat} {runs : List (Nat × Nat)} (h : RunsAscend n runs) :
    ∀ r ∈ runs, r.1 ≤ r.2 := by
  induction runs generalizing n with
  | nil => simp
  | cons r rest ih =>
    intro s hs
    cases List.mem_cons.1 hs with
    | inl h' => exact h' ▸ h.2.1
    | inr h' => exact ih h.2.2 s h'

/-- A set of characters. -/
@[ext]
structure CharSet where
  runs : List (Nat × Nat)
  ascend : RunsAscend 0 runs
  deriving DecidableEq

namespace CharSet

instance : Inhabited CharSet := ⟨[], trivial⟩

/-! ### Members -/

/-- Whether a code point lies in one of the runs, which ascend. -/
def covers : List (Nat × Nat) → Nat → Bool
  | [], _ => false
  | (first, last) :: rest, n => first ≤ n && (n ≤ last || covers rest n)

/-- Whether a character belongs to the set. -/
def contains (s : CharSet) (c : Char) : Bool := covers s.runs c.toNat

theorem covers_eq_false {m n : Nat} {runs : List (Nat × Nat)} (h : RunsAscend m runs)
    (hn : n < m) : covers runs n = false := by
  cases runs with
  | nil => rfl
  | cons r rest =>
    have hr : ¬r.1 ≤ n := by have := h.1; omega
    simp [covers, hr]

theorem covers_cons {m n : Nat} {r : Nat × Nat} {rest : List (Nat × Nat)}
    (h : RunsAscend m (r :: rest)) :
    covers (r :: rest) n ↔ (r.1 ≤ n ∧ n ≤ r.2) ∨ covers rest n := by
  by_cases hn : n < r.2 + 2
  · simp [covers, covers_eq_false h.2.2 hn]
  · have hr := h.2.1
    have h1 : r.1 ≤ n := by omega
    have h2 : ¬n ≤ r.2 := by omega
    simp [covers, h1, h2]

/-! ### Runs that touch -/

/-- Join runs that overlap or touch, in a list that ascends by their first code points. -/
def glue (first last : Nat) : List (Nat × Nat) → List (Nat × Nat)
  | [] => [(first, last)]
  | (f, l) :: rest =>
    if f ≤ last + 1 then glue first (max last l) rest else (first, last) :: glue f l rest

theorem runsAscend_glue {n first last : Nat} {rest : List (Nat × Nat)} (hn : n ≤ first)
    (h : first ≤ last) (hr : ∀ r ∈ rest, r.1 ≤ r.2) : RunsAscend n (glue first last rest) := by
  induction rest generalizing n first last with
  | nil => exact ⟨hn, h, trivial⟩
  | cons r rest ih =>
    have hrest := fun s hs => hr s (List.mem_cons_of_mem r hs)
    rw [glue]
    split
    · exact ih hn (by omega) hrest
    · exact ⟨hn, h, ih (by omega) (hr r List.mem_cons_self) hrest⟩

/-- Joining runs changes no member. -/
theorem covers_glue {n first last : Nat} {rest : List (Nat × Nat)} (h : first ≤ last)
    (hr : ∀ r ∈ rest, r.1 ≤ r.2) (hf : FirstsAscend first rest) :
    covers (glue first last rest) n ↔
      (first ≤ n ∧ n ≤ last) ∨ ∃ r ∈ rest, r.1 ≤ n ∧ n ≤ r.2 := by
  induction rest generalizing first last with
  | nil => simp [glue, covers]
  | cons r rest ih =>
    have hrest := fun s hs => hr s (List.mem_cons_of_mem r hs)
    have hr' := hr r List.mem_cons_self
    have hf' := hf.1
    rw [glue]
    split
    · next htouch =>
      rw [ih (by omega) hrest (hf.2.mono hf.1)]
      simp only [List.mem_cons, exists_eq_or_imp]
      rw [← or_assoc]
      refine or_congr_left ?_
      omega
    · next hgap =>
      rw [covers_cons ⟨Nat.zero_le _, h, runsAscend_glue (n := last + 2) (by omega) hr' hrest⟩,
        ih hr' hrest hf.2]
      simp

/-! ### Unions -/

/-- Put a run into an ascending list, together with those that `more` puts after it. -/
def insertThen (r : Nat × Nat) (more : List (Nat × Nat) → List (Nat × Nat)) :
    List (Nat × Nat) → List (Nat × Nat)
  | [] => r :: more []
  | s :: rest => if r.1 ≤ s.1 then r :: more (s :: rest) else s :: insertThen r more rest

/-- The runs of two ascending lists in one. -/
def merge : List (Nat × Nat) → List (Nat × Nat) → List (Nat × Nat)
  | [], runs => runs
  | r :: rest, runs => insertThen r (merge rest) runs

theorem mem_merge {r : Nat × Nat} {as bs : List (Nat × Nat)} :
    r ∈ merge as bs ↔ r ∈ as ∨ r ∈ bs := by
  induction as generalizing bs with
  | nil => simp [merge]
  | cons a as ih =>
    rw [merge]
    induction bs with
    | nil => simp [insertThen, ih]
    | cons b bs ihb =>
      rw [insertThen]
      split
      · simp [ih, or_assoc]
      · simp only [List.mem_cons, ihb]
        grind

theorem firstsAscend_merge {n : Nat} {as bs : List (Nat × Nat)} (ha : FirstsAscend n as)
    (hb : FirstsAscend n bs) : FirstsAscend n (merge as bs) := by
  induction as generalizing n bs with
  | nil => exact hb
  | cons a as ih =>
    rw [merge]
    induction bs generalizing n with
    | nil => exact ⟨ha.1, ih ha.2 trivial⟩
    | cons b bs ihb =>
      rw [insertThen]
      split
      · next h => exact ⟨ha.1, ih ha.2 ⟨h, hb.2⟩⟩
      · next h => exact ⟨hb.1, ihb ⟨Nat.le_of_lt (Nat.lt_of_not_le h), ha.2⟩ hb.2⟩

/-- The set of the runs of a list that ascends by their first code points. -/
def ofRuns : (runs : List (Nat × Nat)) → (∀ r ∈ runs, r.1 ≤ r.2) → CharSet
  | [], _ => ⟨[], trivial⟩
  | (first, last) :: rest, h => {
      runs := glue first last rest
      ascend := runsAscend_glue (Nat.zero_le _) (h _ List.mem_cons_self) fun r hr =>
        h r (List.mem_cons_of_mem _ hr) }

theorem contains_ofRuns {runs : List (Nat × Nat)} {h : ∀ r ∈ runs, r.1 ≤ r.2}
    (hf : FirstsAscend 0 runs) {c : Char} :
    (ofRuns runs h).contains c ↔ ∃ r ∈ runs, r.1 ≤ c.toNat ∧ c.toNat ≤ r.2 := by
  cases runs with
  | nil => simp [ofRuns, contains, covers]
  | cons r rest =>
    rw [contains, ofRuns, covers_glue (h r List.mem_cons_self)
      (fun s hs => h s (List.mem_cons_of_mem r hs)) hf.2]
    simp

theorem covers_iff {n m : Nat} {runs : List (Nat × Nat)} (h : RunsAscend m runs) :
    covers runs n ↔ ∃ r ∈ runs, r.1 ≤ n ∧ n ≤ r.2 := by
  induction runs generalizing m with
  | nil => simp [covers]
  | cons r rest ih =>
    rw [covers_cons h, ih h.2.2]
    simp

/-- What belongs to one of two sets. -/
def union (a b : CharSet) : CharSet :=
  ofRuns (merge a.runs b.runs) fun r hr =>
    (mem_merge.1 hr).elim (a.ascend.first_le_last r) (b.ascend.first_le_last r)

theorem contains_union {a b : CharSet} {c : Char} :
    (a.union b).contains c ↔ a.contains c ∨ b.contains c := by
  rw [union, contains_ofRuns (firstsAscend_merge a.ascend.firstsAscend b.ascend.firstsAscend),
    contains, contains, covers_iff a.ascend, covers_iff b.ascend]
  simp only [mem_merge]
  grind

/-! ### Complements -/

/-- The last code point. -/
def lastCodePoint : Nat := 0x10ffff

/-- The runs between those of an ascending list, from `next` on. -/
def gaps (next : Nat) : List (Nat × Nat) → List (Nat × Nat)
  | [] => if next ≤ lastCodePoint then [(next, lastCodePoint)] else []
  | (first, last) :: rest =>
    if next < first then (next, first - 1) :: gaps (last + 1) rest else gaps (last + 1) rest

theorem runsAscend_gaps {n next : Nat} {runs : List (Nat × Nat)} (hn : n ≤ next)
    (h : RunsAscend next runs) : RunsAscend n (gaps next runs) := by
  induction runs generalizing n next with
  | nil =>
    rw [gaps]
    split
    · next h => exact ⟨hn, h, trivial⟩
    · trivial
  | cons r rest ih =>
    have h1 := h.1
    have h2 := h.2.1
    have hrest : RunsAscend (r.2 + 1) rest := h.2.2.mono (by omega)
    rw [gaps]
    split
    · exact ⟨hn, by omega, ih (by omega) hrest⟩
    · exact ih (by omega) hrest

theorem covers_gaps {n next : Nat} {runs : List (Nat × Nat)} (h : RunsAscend next runs)
    (hn : n ≤ lastCodePoint) : covers (gaps next runs) n ↔ next ≤ n ∧ covers runs n = false := by
  induction runs generalizing next with
  | nil =>
    rw [gaps]
    split
    · simp [covers, hn]
    · simp only [covers]
      grind
  | cons r rest ih =>
    have h1 := h.1
    have h2 := h.2.1
    have hrest : RunsAscend (r.2 + 1) rest := h.2.2.mono (by omega)
    have hcons := covers_cons (n := n) h
    rw [gaps]
    split
    · rw [covers_cons ⟨Nat.zero_le _, by omega, runsAscend_gaps (by omega) hrest⟩, ih hrest]
      grind [covers_eq_false]
    · rw [ih hrest]
      grind [covers_eq_false]

/-- Code points that are no characters. -/
def surrogates : CharSet := ⟨[(0xd800, 0xdfff)], by simp [RunsAscend]⟩

/-- All characters but those of the set. -/
def complement (s : CharSet) : CharSet :=
  let t := s.union surrogates
  ⟨gaps 0 t.runs, runsAscend_gaps (Nat.le_refl 0) t.ascend⟩

theorem contains_complement {s : CharSet} {c : Char} :
    s.complement.contains c ↔ ¬s.contains c := by
  have hv : c.toNat < 0xd800 ∨ (0xdfff < c.toNat ∧ c.toNat < 0x110000) := c.valid
  have hc : c.toNat ≤ lastCodePoint := by
    rw [lastCodePoint]
    omega
  have hs : ¬surrogates.contains c := by
    simp only [surrogates, contains, covers, Bool.or_false, Bool.and_eq_true, decide_eq_true_eq]
    omega
  have hu := contains_union (a := s) (b := surrogates) (c := c)
  rw [complement, contains, covers_gaps (s.union surrogates).ascend hc]
  simp only [Nat.zero_le, true_and]
  simp only [contains] at hu hs ⊢
  grind

/-! ### Further operations -/

/-- No characters. -/
def empty : CharSet := ⟨[], trivial⟩

/-- All characters. -/
def all : CharSet := empty.complement

/-- What belongs to two sets. -/
def inter (a b : CharSet) : CharSet := (a.complement.union b.complement).complement

theorem contains_inter {a b : CharSet} {c : Char} :
    (a.inter b).contains c ↔ a.contains c ∧ b.contains c := by
  rw [inter, contains_complement, contains_union, contains_complement, contains_complement]
  grind

/-- What belongs to `a` and not to `b`. -/
def diff (a b : CharSet) : CharSet := (a.complement.union b).complement

theorem contains_diff {a b : CharSet} {c : Char} :
    (a.diff b).contains c ↔ a.contains c ∧ ¬b.contains c := by
  rw [diff, contains_complement, contains_union, contains_complement]
  grind

/-- What belongs to one of two sets and not to both. -/
def symmDiff (a b : CharSet) : CharSet := (a.diff b).union (b.diff a)

/-- The complement, if it is asked for. -/
def negateIf (negated : Bool) (s : CharSet) : CharSet := if negated then s.complement else s

/-- What belongs to one of several sets. -/
def unions (sets : List CharSet) : CharSet := sets.foldr union empty

theorem contains_unions {sets : List CharSet} {c : Char} :
    (unions sets).contains c ↔ ∃ s ∈ sets, s.contains c := by
  induction sets with
  | nil => simp [unions, empty, contains, covers]
  | cons s sets ih =>
    rw [unions, List.foldr_cons, contains_union, ← unions, ih]
    simp

/-! ### Sets by their members -/

/-- The code points from `first` to `last`. -/
def span (first last : Nat) : CharSet :=
  if h : first ≤ last then ⟨[(first, last)], Nat.zero_le _, h, trivial⟩ else empty

/-- A single character. -/
def single (c : Char) : CharSet := ⟨[(c.toNat, c.toNat)], Nat.zero_le _, Nat.le_refl _, trivial⟩

theorem contains_single {c d : Char} : (single c).contains d ↔ d = c := by
  simp only [single, contains, covers, Bool.or_false, Bool.and_eq_true, decide_eq_true_eq]
  refine ⟨fun h => ?_, by rintro rfl; simp⟩
  exact Char.toNat_inj.1 (Nat.le_antisymm h.2 h.1)

/-- The code points of a list of runs in ascending order; a run that ends before it starts has
none. -/
def ofAscending (runs : List (Nat × Nat)) : CharSet :=
  ofRuns (runs.filter fun r => r.1 ≤ r.2) (by simp)

/-- The characters from `first` to `last`. -/
def range (first last : Char) : CharSet :=
  if first.toNat < 0xd800 ∧ 0xdfff < last.toNat then
    (span first.toNat 0xd7ff).union (span 0xe000 last.toNat)
  else span first.toNat last.toNat

/-- Several ranges. -/
def ranges (rs : List (Char × Char)) : CharSet := unions (rs.map fun r => range r.1 r.2)

/-- The characters of a list. -/
def ofList (cs : List Char) : CharSet := unions (cs.map single)

/-- The only member, if there is no other. -/
def single? (s : CharSet) : Option Char :=
  match s.runs with
  | [(first, last)] => if first = last then some (Char.ofNat first) else none
  | _ => none

end CharSet

end Appraisal
