import Appraisal.Value.Compare

/-!
# Tokens

The words of a formula. Beside the operators of the language there are tokens for operators that
look like ones of it but are refused later, so that the refusal can name them: assignments and
bitwise operators.
-/

namespace Appraisal

/-- The bitwise operators, none of which a formula may use. -/
inductive BitwiseOp
  | shiftLeft
  | shiftRight
  | both
  | either
  | differ
  | invert
  | product
  deriving DecidableEq

/-- The symbol of a bitwise operator. -/
def BitwiseOp.symbol : BitwiseOp → String
  | shiftLeft => "<<"
  | shiftRight => ">>"
  | both => "&"
  | either => "|"
  | differ => "^"
  | invert => "~"
  | product => "@"

/-- The operators that can be joined with an assignment. -/
inductive UpdateOp
  | power
  | floorDivide
  | shiftRight
  | shiftLeft
  | add
  | subtract
  | multiply
  | divide
  | modulo
  | both
  | either
  | differ
  | product
  deriving DecidableEq

/-- The symbol of an operator joined with an assignment. -/
def UpdateOp.symbol : UpdateOp → String
  | power => "**="
  | floorDivide => "//="
  | shiftRight => ">>="
  | shiftLeft => "<<="
  | add => "+="
  | subtract => "-="
  | multiply => "*="
  | divide => "/="
  | modulo => "%="
  | both => "&="
  | either => "|="
  | differ => "^="
  | product => "@="

/-- A word of a formula. -/
inductive Token
  | int (i : Int64)
  | float (v : Float)
  | string (s : String)
  /-- A text with a mark that asks for formatting. -/
  | formatted
  | name (s : String)
  | plus
  | minus
  | star
  | doubleStar
  | slash
  | doubleSlash
  | percent
  | comparison (op : Comparison)
  | assign
  | walrus
  | update (op : UpdateOp)
  | bitwise (op : BitwiseOp)
  | openParen
  | closeParen
  | openBracket
  | closeBracket
  | openBrace
  | closeBrace
  | comma
  | dot
  | colon
  | semicolon
  /-- The end of the formula. -/
  | finish
  deriving Inhabited

namespace Token

/-- A token as messages show it. -/
def text : Token → String
  | int i => Number.decimal i
  | float v => Number.plain v
  | string s => "\"" ++ s ++ "\""
  | formatted => "f-string"
  | name s => s
  | plus => "+"
  | minus => "-"
  | star => "*"
  | doubleStar => "**"
  | slash => "/"
  | doubleSlash => "//"
  | percent => "%"
  | comparison op => op.symbol
  | assign => "="
  | walrus => ":="
  | update op => op.symbol
  | bitwise op => op.symbol
  | openParen => "("
  | closeParen => ")"
  | openBracket => "["
  | closeBracket => "]"
  | openBrace => "\x7b"
  | closeBrace => "\x7d"
  | comma => ","
  | dot => "."
  | colon => ":"
  | semicolon => ";"
  | finish => "end of formula"

/-- Whether an operand is missing where the formula ends after this token. -/
def isBinaryOperator : Token → Bool
  | plus | minus | star | doubleStar | slash | doubleSlash | percent | comparison _ => true
  | _ => false

/-- Whether the token is the given word. -/
def isName (word : String) : Token → Bool
  | name s => s == word
  | _ => false

/-- Whether the token assigns, alone or together with an operator. -/
def isAssignment : Token → Bool
  | assign | walrus | update _ => true
  | _ => false

end Token

/-- A token and the number of characters before it. -/
structure PlacedToken where
  token : Token
  position : Nat

end Appraisal
