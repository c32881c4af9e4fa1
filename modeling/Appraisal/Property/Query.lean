import Appraisal.Property.Age
import Appraisal.Property.Boundary
import Appraisal.Text.Split

/-!
# Queries for properties

A pattern may ask for the characters of a property by its name alone, if a character has the
property or has it not, or by its name and one of its values. The name of a general category or of
a script may stand alone too. Names are compared without regard to case, blanks, hyphens and low
lines (`nameKey`).
-/

namespace Appraisal.Property

/-- A name in its normal form. A leading "is" does not count, except in the name of a comment,
which would else be that of the category of all other characters. -/
def nameKey (name : List Char) : String :=
  let key := (name.filter fun c => c.toNat < 0x80 && c != ' ' && c != '_' && c != '-').map
    Char.toLower
  match name with
  | i :: s :: _ =>
    if i.toLower = 'i' ∧ s.toLower = 's' ∧ key.drop 2 ≠ ['c'] then String.ofList (key.drop 2)
    else String.ofList key
  | _ => String.ofList key

/-- The set of a name, among sets with their names. -/
def named? (sets : List (List String × CharSet)) (key : String) : Option CharSet :=
  (sets.find? fun entry => entry.1.contains key).map Prod.snd

/-- The set that a name alone stands for. -/
def alone? (key : String) : Option CharSet :=
  (named? listed key).or <| (named? derived key).or <| (category? key).or (script? key)

/-- The set that a property and one of its values stand for. -/
def valued? (property value : String) : Option CharSet :=
  match property with
  | "generalcategory" | "gc" => category? value
  | "script" | "sc" => script? value
  | "scriptextensions" | "scx" => scriptExtension? value
  | "age" => age? value
  | "graphemeclusterbreak" | "gcb" => named? graphemeBreaks value
  | "wordbreak" | "wb" => named? wordBreaks value
  | "sentencebreak" | "sb" => named? sentenceBreaks value
  | _ => none

/-- What comes before the first `sign` of a text and what after it. -/
def cutAt? (sign : List Char) (cs : List Char) : Option (List Char × List Char) :=
  match cs with
  | [] => none
  | c :: rest =>
    match Text.dropPrefix? sign cs with
    | some after => some ([], after)
    | none => (cutAt? sign rest).map fun (before, after) => (c :: before, after)

/-- What a pattern asks for: the characters of a set, or all others. -/
structure Query where
  set : CharSet
  negated : Bool := false

/-- The query that the text between the braces of a property stands for: a name, or a name and a
value with a sign between them. -/
def Query.ofText? (text : List Char) : Option Query := do
  let valueOf := fun (name, value) => valued? (nameKey name) (nameKey value)
  if let some cut := cutAt? ['!', '='] text then
    return { set := ← valueOf cut, negated := true }
  else if let some cut := (cutAt? [':'] text).or (cutAt? ['='] text) then
    return { set := ← valueOf cut }
  else return { set := ← alone? (nameKey text) }

end Appraisal.Property
