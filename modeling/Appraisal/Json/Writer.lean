import Appraisal.Json.Basic
import Appraisal.Text.Character

/-!
# Writing JSON

The compact text of a JSON value, without blanks. A text is quoted with the short escapes where
there are any; other control characters are written by their code.
-/

namespace Appraisal.Json

/-- How a character is written between quotes. -/
def escape (c : Char) : List Char :=
  match c with
  | '"' => ['\\', '"']
  | '\\' => ['\\', '\\']
  | '\x08' => ['\\', 'b']
  | '\x0c' => ['\\', 'f']
  | '\n' => ['\\', 'n']
  | '\r' => ['\\', 'r']
  | '\t' => ['\\', 't']
  | c =>
    if c < ' ' then
      ['\\', 'u', '0', '0', Text.hexDigit (c.toNat / 16), Text.hexDigit (c.toNat % 16)]
    else [c]

/-- A text between quotes. -/
def quote (s : String) : String := "\"" ++ String.ofList (s.toList.flatMap escape) ++ "\""

mutual

/-- The compact text of a value. -/
def write : Json → String
  | null => "null"
  | bool b => if b then "true" else "false"
  | integer n => if n < 0 then "-" ++ n.natAbs.repr else n.natAbs.repr
  | float v => Number.interchange v
  | string s => quote s
  | array items => "[" ++ writeItems items ++ "]"
  | object members => "\x7b" ++ writeMembers members ++ "\x7d"

/-- The items of an array, with commas between them. -/
def writeItems : List Json → String
  | [] => ""
  | [item] => item.write
  | item :: rest => item.write ++ "," ++ writeItems rest

/-- The members of an object, with commas between them. -/
def writeMembers : List (String × Json) → String
  | [] => ""
  | [(key, value)] => quote key ++ ":" ++ value.write
  | (key, value) :: rest => quote key ++ ":" ++ value.write ++ "," ++ writeMembers rest

end

end Appraisal.Json
