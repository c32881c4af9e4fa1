import Appraisal.Formula.Builtin
import Appraisal.Formula.Complaint

/-!
# Errors of formulas

An error of a formula as it is reported and stored: text that is malformed or refused, a field
that the listing lacks, or an evaluation that failed.
-/

namespace Appraisal

/-- An error of a formula. -/
inductive FormulaError
  | malformed (message : String) (position : Option Nat) (suggestion : Option String)
  | refused (message : String) (position : Option Nat) (suggestion : Option String)
  | undefined (name : String) (available : List String)
  | evaluation (message : String)
  deriving DecidableEq, Inhabited

namespace FormulaError

/-- The report of a complaint about the text of a formula. -/
def ofParse (e : ParseError) : FormulaError :=
  let message := e.complaint.message
  let suggestion := e.complaint.suggestion? Builtin.names
  if e.complaint.isRefusal then refused message (some e.position) suggestion
  else malformed message (some e.position) suggestion

/-- The number of characters before the place that an error is about. -/
def position? : FormulaError → Option Nat
  | malformed _ position _ | refused _ position _ => position
  | _ => none

/-- How the formula could be mended. -/
def suggestion? : FormulaError → Option String
  | malformed _ _ suggestion | refused _ _ suggestion => suggestion
  | _ => none

/-- Whether an error was found before the formula was evaluated. -/
def isParseError : FormulaError → Bool
  | malformed .. | refused .. => true
  | _ => false

/-- A place in a message. -/
def placeText : Option Nat → String
  | none => ""
  | some p => " at position " ++ p.repr

/-- A suggestion in a message. -/
def hintText : Option String → String
  | none => ""
  | some s => " (suggestion: " ++ s ++ ")"

/-- The number of fields that a message lists. -/
def listedFields : Nat := 8

/-- The fields of a listing in a message. -/
def availableText (fields : List String) : String :=
  let shown := Text.join ", " (fields.take listedFields)
  if fields = [] then ""
  else if fields.length ≤ listedFields then "; available: " ++ shown
  else "; available: " ++ shown ++ " and " ++ (fields.length - listedFields).repr ++ " more"

/-- The message of an error. -/
def message : FormulaError → String
  | malformed message position suggestion =>
    "syntax error" ++ placeText position ++ ": " ++ message ++ hintText suggestion
  | refused message position suggestion =>
    "validation error" ++ placeText position ++ ": " ++ message ++ hintText suggestion
  | undefined name available =>
    "undefined variable '" ++ name ++ "'" ++ availableText available
  | evaluation message => "evaluation error: " ++ message

end FormulaError

end Appraisal
