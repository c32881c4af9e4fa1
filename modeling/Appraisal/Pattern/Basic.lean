import Appraisal.CharSet.Basic

/-!
# Patterns

A pattern describes the texts that it matches, and `Pattern.occursIn` asks whether it matches
somewhere in a text. Matching carries a mark for every place of the text, before its first
character, between two and after its last: `ends` turns the marks of the places where a match may
begin into those of the places where it may end.
-/

namespace Appraisal

/-- What a pattern may ask of a place, given the characters around it. -/
inductive Assertion
  | textStart
  | textEnd
  | lineStart
  | lineEnd
  /-- A line starts after a line feed, a carriage return, or both together. -/
  | lineStartAnyEnding
  | lineEndAnyEnding
  | wordBoundary
  | notWordBoundary
  | wordStart
  | wordEnd
  /-- No word character stands before the place. -/
  | wordStartHalf
  /-- No word character stands after the place. -/
  | wordEndHalf
  deriving DecidableEq, Inhabited

/-- A pattern. -/
inductive Pattern
  | empty
  /-- One character after the other. -/
  | literal (text : List Char)
  | oneOf (s : CharSet)
  /-- A demand on a place; `word` says which characters make up a word. -/
  | assertion (a : Assertion) (word : CharSet)
  /-- The groups of a pattern are numbered by their opening brackets. -/
  | group (number : Nat) (p : Pattern)
  /-- At least `low` times, and at most `high` times if there is a bound; as often as possible or
  as rarely. -/
  | times (low : Nat) (high : Option Nat) (greedy : Bool) (p : Pattern)
  | seq (p q : Pattern)
  | alt (p q : Pattern)
  deriving DecidableEq, Inhabited

/-- Whether an assertion is about words. -/
def Assertion.aboutWords : Assertion → Bool
  | wordBoundary | notWordBoundary | wordStart | wordEnd | wordStartHalf | wordEndHalf => true
  | _ => false

/-- Whether a place between two characters, or at an end of the text, is as demanded. -/
def Assertion.holds (word : CharSet) (a : Assertion) (before after : Option Char) : Bool :=
  let left := before.any word.contains
  let right := after.any word.contains
  match a with
  | textStart => before.isNone
  | textEnd => after.isNone
  | lineStart => before.isNone || before == some '\n'
  | lineEnd => after.isNone || after == some '\n'
  | lineStartAnyEnding =>
    before.isNone || before == some '\n' || (before == some '\r' && after != some '\n')
  | lineEndAnyEnding =>
    after.isNone || after == some '\r' || (after == some '\n' && before != some '\r')
  | wordBoundary => left != right
  | notWordBoundary => left == right
  | wordStart => !left && right
  | wordEnd => left && !right
  | wordStartHalf => !left
  | wordEndHalf => !right

namespace Pattern

/-! ### Marks -/

/-- The characters around every place of a text. -/
def places (text : List Char) : List (Option Char × Option Char) :=
  (none :: text.map some).zip (text.map some ++ [none])

/-- The places after a character with a property that follows a marked place. -/
def advance (ok : Char → Bool) (text : List Char) (marks : List Bool) : List Bool :=
  false :: marks.zipWith (fun mark c => mark && ok c) text

/-- The places marked in one list or the other. -/
def join (a b : List Bool) : List Bool := a.zipWith (· || ·) b

/-- Apply a step `n` times, or until it changes nothing. -/
def iterate (step : List Bool → List Bool) : Nat → List Bool → List Bool
  | 0, marks => marks
  | n + 1, marks =>
    let next := step marks
    if next = marks then marks else iterate step n next

/-- A step that changes nothing may be left out. -/
theorem iterate_succ (step : List Bool → List Bool) (n : Nat) (marks : List Bool) :
    iterate step (n + 1) marks = iterate step n (step marks) := by
  rw [iterate]
  split
  · next h =>
    rw [h]
    cases n with
    | zero => rfl
    | succ n => rw [iterate, if_pos h]
  · rfl

/-! ### Matching -/

/-- The places where a match may end that begins at a marked place. -/
def ends (text : List Char) : Pattern → List Bool → List Bool
  | empty, marks => marks
  | literal cs, marks => cs.foldl (fun marks c => advance (· == c) text marks) marks
  | oneOf s, marks => advance s.contains text marks
  | assertion a word, marks =>
    marks.zipWith (fun mark place => mark && a.holds word place.1 place.2) (places text)
  | group _ p, marks => p.ends text marks
  | times low high _ p, marks =>
    -- after as many rounds as there are places a further one marks nothing new
    let more := match high with
      | none => text.length + 1
      | some high => high - low
    iterate (fun marks => join marks (p.ends text marks)) more
      (iterate (p.ends text) low marks)
  | seq p q, marks => q.ends text (p.ends text marks)
  | alt p q, marks => join (p.ends text marks) (q.ends text marks)

/-- Whether the pattern matches some part of a text. -/
def occursIn (p : Pattern) (text : String) : Bool :=
  let places := true :: text.toList.map fun _ => true
  (p.ends text.toList places).any id

end Pattern

end Appraisal
