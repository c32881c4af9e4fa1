import Appraisal.Pattern.Extent

/-!
# Simple patterns

Patterns are put together so that equal parts of a row or a choice stand once where they can: texts
in a row become one text, a choice between single characters becomes a set, and what all branches
of a choice begin with stands before it. A row matches as its patterns do one after the other
(`ends_row`). Whether a pattern is too large is asked of the result.
-/

namespace Appraisal.Pattern

/-! ### Parts -/

/-- A character of a set; a set with a single character is a text. -/
def ofSet (s : CharSet) : Pattern :=
  match s.single? with
  | some c => literal [c]
  | none => oneOf s

/-- The parts of a row. -/
def parts : Pattern → List Pattern
  | empty => []
  | seq p q => p :: q.parts
  | p => [p]

/-- The branches of a choice. -/
def branches : Pattern → List Pattern
  | alt p q => p :: q.branches
  | p => [p]

/-! ### Rows -/

/-- The parts of a row, with the texts between other parts in one. -/
def joinLiterals : List Pattern → List Pattern
  | [] => []
  | literal a :: rest =>
    match joinLiterals rest with
    | literal b :: rest => literal (a ++ b) :: rest
    | rest => literal a :: rest
  | p :: rest => p :: joinLiterals rest

/-- Parts that cannot be joined any more, one after the other. -/
def ofParts : List Pattern → Pattern
  | [] => empty
  | [p] => p
  | p :: rest => seq p (ofParts rest)

/-- Patterns one after the other. -/
def row (ps : List Pattern) : Pattern := ofParts (joinLiterals (ps.flatMap parts))

theorem foldl_joinLiterals (text : List Char) (ps : List Pattern) (marks : List Bool) :
    (joinLiterals ps).foldl (fun marks p => p.ends text marks) marks =
      ps.foldl (fun marks p => p.ends text marks) marks := by
  fun_induction joinLiterals ps generalizing marks with
  | case1 => rfl
  | case2 a rest b rest' h ih =>
    rw [List.foldl_cons, List.foldl_cons, ← ih, h, List.foldl_cons]
    simp only [ends, List.foldl_append]
  | case3 a rest h ih => rw [List.foldl_cons, List.foldl_cons, ih]
  | case4 p rest h ih => rw [List.foldl_cons, List.foldl_cons, ih]

theorem ends_ofParts (text : List Char) (ps : List Pattern) (marks : List Bool) :
    (ofParts ps).ends text marks = ps.foldl (fun marks p => p.ends text marks) marks := by
  fun_induction ofParts ps generalizing marks with
  | case1 => rfl
  | case2 p => rfl
  | case3 p rest h ih => rw [ends, ih, List.foldl_cons]

theorem foldl_parts (text : List Char) (p : Pattern) (marks : List Bool) :
    p.parts.foldl (fun marks p => p.ends text marks) marks = p.ends text marks := by
  fun_induction parts p generalizing marks with
  | case1 => rfl
  | case2 p q ih => rw [List.foldl_cons, ih, ends]
  | case3 p => rfl

/-- A row matches what its patterns match one after the other. -/
theorem ends_row (text : List Char) (ps : List Pattern) (marks : List Bool) :
    (row ps).ends text marks = ps.foldl (fun marks p => p.ends text marks) marks := by
  rw [row, ends_ofParts, foldl_joinLiterals]
  induction ps generalizing marks with
  | nil => rfl
  | cons p ps ih => rw [List.flatMap_cons, List.foldl_append, foldl_parts, ih, List.foldl_cons]

/-! ### Choices -/

/-- The only character that a pattern matches. -/
def onlyChar? : Pattern → Option Char
  | literal [c] => some c
  | _ => none

/-- The set of which a pattern matches a character. -/
def onlySet? : Pattern → Option CharSet
  | oneOf s => some s
  | _ => none

/-- Branches that have nothing to share. -/
def ofBranches : List Pattern → Pattern
  | [] => oneOf .empty
  | [p] => p
  | p :: rest => alt p (ofBranches rest)

/-- A choice between branches as a set, if all of them are single characters or all of them
sets. -/
def choiceOfSets? (ps : List Pattern) : Option Pattern :=
  match ps.mapM onlyChar?, ps.mapM onlySet? with
  | some cs, _ => some (ofSet (.ofList cs))
  | none, some sets => some (ofSet (.unions sets))
  | none, none => none

/-- What two lists begin with. -/
def commonStart : List Pattern → List Pattern → List Pattern
  | p :: ps, q :: qs => if p = q then p :: commonStart ps qs else []
  | _, _ => []

/-- What all branches begin with, if each of them has several parts. -/
def sharedStart : List Pattern → List Pattern
  | [] => []
  | p :: rest =>
    if (p :: rest).all fun q => 1 < q.parts.length then
      rest.foldl (fun start q => commonStart start q.parts) p.parts
    else []

/-- A choice between branches that begin in different ways. -/
def choiceOfDistinct (ps : List Pattern) : Pattern :=
  let ps := ps.flatMap branches
  match ps with
  | [p] => p
  | _ => (choiceOfSets? ps).getD (ofBranches ps)

/-- A choice between patterns. -/
def choice (ps : List Pattern) : Pattern :=
  let ps := ps.flatMap branches
  match ps, sharedStart ps with
  | [p], _ => p
  | _, [] => choiceOfDistinct ps
  | _, start =>
    row (start ++ [choiceOfDistinct (ps.map fun p => row (p.parts.drop start.length))])

/-! ### Repetition -/

/-- A pattern repeated. What takes no characters need not be repeated, and what is to occur no time
or once is no repetition. -/
def repeated (low : Nat) (high : Option Nat) (greedy : Bool) (p : Pattern) : Pattern :=
  let (low, high) := if p.takesNothing then (min low 1, some (min (high.getD 1) 1)) else (low, high)
  if low = 0 ∧ high = some 0 then empty
  else if low = 1 ∧ high = some 1 then p
  else times low high greedy p

end Appraisal.Pattern
