import Appraisal.CharSet.Basic
import Appraisal.Text.Folding

/-!
# Sets that ignore case

A set that ignores case holds all characters that fold together with one of its own: what its
members fold to, and whatever folds to one of these. The members themselves stay
(`contains_folded_of_contains`).
-/

namespace Appraisal

/-- The shift that takes back what `s` does. -/
def Text.Shift.inverse (s : Text.Shift) : Text.Shift where
  first := (s.first + s.distance).toNat
  last := (s.last + s.distance).toNat
  stride := s.stride
  distance := -s.distance

namespace CharSet

/-- The parts of a run that a shift covers. -/
def covered (s : Text.Shift) (run : Nat × Nat) : List (Nat × Nat) :=
  let first := max run.1 s.first
  let last := min run.2 s.last
  if s.stride = 1 then [(first, last)]
  else ((List.range' first (last + 1 - first)).filter s.covers).map fun n => (n, n)

/-- What a shift makes of the members of a set. -/
def image (set : CharSet) (s : Text.Shift) : CharSet :=
  ofAscending <| (set.runs.flatMap (covered s)).map fun r =>
    ((r.1 + s.distance).toNat, (r.2 + s.distance).toNat)

/-- The set with all that shifts make of its members. Only those count that reach into the set. -/
def shiftedBy (shifts : List Text.Shift) (set : CharSet) : CharSet :=
  match set.runs.head?, set.runs.getLast? with
  | some (bottom, _), some (_, top) =>
    unions (set :: (shifts.filter fun s => s.first ≤ top && bottom ≤ s.last).map set.image)
  | _, _ => set

theorem contains_shiftedBy_of_contains {shifts : List Text.Shift} {s : CharSet} {c : Char}
    (h : s.contains c) : (s.shiftedBy shifts).contains c := by
  rw [shiftedBy]
  split
  · exact contains_unions.2 ⟨s, List.mem_cons_self, h⟩
  · exact h

/-- The way from characters to what they fold to. -/
def foldings : List Text.Shift := Text.foldingShifts.toList

/-- The way back. -/
def unfoldings : List Text.Shift := foldings.map Text.Shift.inverse

/-- Whatever differs at most in case from a character of the set. -/
def folded (s : CharSet) : CharSet := (s.shiftedBy foldings).shiftedBy unfoldings

/-- The way from the capital letters of ASCII to the small ones. -/
def asciiFolding : Text.Shift := ⟨0x41, 0x5a, 1, 32⟩

/-- Whatever differs from a character of the set at most in the case of an ASCII letter. -/
def asciiFolded (s : CharSet) : CharSet :=
  (s.shiftedBy [asciiFolding]).shiftedBy [asciiFolding.inverse]

theorem contains_folded_of_contains {s : CharSet} {c : Char} (h : s.contains c) :
    s.folded.contains c :=
  contains_shiftedBy_of_contains (contains_shiftedBy_of_contains h)

end CharSet

end Appraisal
