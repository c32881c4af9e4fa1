import Appraisal.Formula.Token

/-!
# What is wrong with a formula

The reasons why a text is not a formula (`Complaint`). Each one has a message, some a suggestion,
and each is either malformed text or well-formed text that the language refuses
(`Complaint.isRefusal`). A `ParseError` adds the place.
-/

namespace Appraisal

/-- What stood before the end of a formula that ends too early. -/
inductive Unfinished
  | nothing
  | operator (token : Token)
  | opening
  | other

/-- A pair of brackets. -/
inductive Bracket
  | round
  | square
  deriving DecidableEq

/-- The opening half of a pair of brackets. -/
def Bracket.opening : Bracket → String
  | round => "("
  | square => "["

/-- The closing half of a pair of brackets. -/
def Bracket.closing : Bracket → String
  | round => ")"
  | square => "]"

/-- Whether a token closes a pair of brackets. -/
def Bracket.isClosedBy : Bracket → Token → Bool
  | round, .closeParen => true
  | square, .closeBracket => true
  | _, _ => false

/-- Words that open a statement, with the complaint about each. -/
def statementWords : List (String × String) := [
  ("import", "import statements are not allowed"),
  ("from", "import statements are not allowed"),
  ("def", "function definitions are not allowed"),
  ("class", "class definitions are not allowed"),
  ("lambda", "lambda expressions are not allowed"),
  ("for", "loops and comprehensions are not allowed"),
  ("while", "loops are not allowed"),
  ("with", "with statements are not allowed"),
  ("del", "del statements are not allowed"),
  ("global", "global declarations are not allowed"),
  ("nonlocal", "nonlocal declarations are not allowed"),
  ("return", "return statements are not allowed"),
  ("yield", "yield expressions are not allowed"),
  ("async", "async constructs are not allowed"),
  ("await", "await expressions are not allowed"),
  ("exec", "exec is not allowed"),
  ("raise", "raise statements are not allowed"),
  ("try", "exception handling is not allowed"),
  ("except", "exception handling is not allowed"),
  ("finally", "exception handling is not allowed"),
  ("assert", "assert statements are not allowed"),
  ("pass", "pass statements are not allowed"),
  ("break", "break statements are not allowed"),
  ("continue", "continue statements are not allowed")]

/-- Whether a word opens a statement. -/
def isStatementWord (word : String) : Bool := statementWords.any (·.1 == word)

/-- Words with a meaning in the grammar, which therefore name no field. -/
def structuralWords : List String := ["and", "or", "not", "if", "else", "elif", "in", "is"]

/-- A reason why a text is not a formula. -/
inductive Complaint
  | unterminatedString
  | strayBang
  | lineContinuation
  | strayCharacter (c : Char)
  | tooLong (length maximum : Nat)
  | nestedTooDeep (maximum : Nat)
  | treeTooHigh (maximum : Nat)
  | assignment (token : Token)
  | statement (word : String)
  | endsEarly (after : Unfinished)
  | strayClosing (bracket : Bracket)
  | bitwise (op : BitwiseOp)
  | strayOperand (token : Token)
  | severalStatements
  | membership
  | missingOperator (token : Token)
  | strayColon
  | comprehension
  | unclosed (bracket : Bracket) (position : Nat)
  | slice
  | wrongClosing (bracket : Bracket) (found : Token)
  | empty
  | missingElse
  | missingAttribute
  | formattedString
  | leadingWord (word : String)
  | braces
  | reservedName (name : String)
  | reservedAttribute (name : String)
  | attributeOfValue (name : String)
  | methodCall (name : String)
  | unnamedCallee
  | unknownFunction (name : String)
  | keywordArgument (name : String)
  | unpackedArgument
  | wrongCount (name arity : String) (count : Nat)

namespace Complaint

/-- The message of a complaint, without its place. -/
def message : Complaint → String
  | unterminatedString => "unterminated string literal"
  | strayBang => "unexpected character '!'"
  | lineContinuation => "line continuations are not supported"
  | strayCharacter c => "unexpected character '" ++ String.singleton c ++ "'"
  | tooLong length maximum =>
    "formula is " ++ length.repr ++ " characters long; the maximum is " ++ maximum.repr
  | nestedTooDeep maximum | treeTooHigh maximum =>
    "formula nesting exceeds the maximum depth of " ++ maximum.repr
  | assignment .walrus => "assignment expressions (:=) are not allowed"
  | assignment (.update op) => "augmented assignment (" ++ op.symbol ++ ") is not allowed"
  | assignment _ => "assignment is not allowed"
  | statement word => (statementWords.lookup word).getD ""
  | endsEarly _ => "unexpected end of formula"
  | strayClosing .round => "unbalanced parentheses: unexpected ')'"
  | strayClosing .square => "unbalanced brackets: unexpected ']'"
  | bitwise op => "bitwise operator '" ++ op.symbol ++ "' is not allowed"
  | strayOperand token | missingOperator token => "unexpected '" ++ token.text ++ "'"
  | severalStatements => "multiple statements are not allowed"
  | membership => "membership and identity tests (in, is) are not supported"
  | strayColon => "unexpected ':'"
  | comprehension => "comprehensions are not allowed"
  | unclosed bracket position =>
    "unbalanced parentheses: '" ++ bracket.opening ++ "' at position " ++ position.repr
      ++ " is never closed"
  | slice => "slices are not allowed"
  | wrongClosing bracket found =>
    "expected '" ++ bracket.closing ++ "' but found '" ++ found.text ++ "'"
  | empty => "formula is empty"
  | missingElse => "conditional expression is missing 'else'"
  | missingAttribute => "expected an attribute name after '.'"
  | formattedString => "f-strings are not allowed"
  | leadingWord word => "unexpected keyword '" ++ word ++ "'"
  | braces => "dict and set literals are not allowed"
  | reservedName name => "names starting with '__' are not allowed: '" ++ name ++ "'"
  | reservedAttribute name => "attributes starting with '__' are not allowed: '" ++ name ++ "'"
  | attributeOfValue name => "attribute '" ++ name ++ "' can only be read from a field path"
  | methodCall name => "method calls are not allowed: '." ++ name ++ "()'"
  | unnamedCallee => "only named functions can be called"
  | unknownFunction name => "function '" ++ name ++ "' is not allowed"
  | keywordArgument name => "keyword arguments are not supported: '" ++ name ++ "='"
  | unpackedArgument => "argument unpacking is not allowed"
  | wrongCount name arity count => name ++ "() takes " ++ arity ++ ", got " ++ count.repr

/-- How the formula could be mended. `functions` lists the functions that may be called. -/
def suggestion? (functions : List String) : Complaint → Option String
  | unterminatedString => "close the string with a matching quote"
  | strayBang => "use 'not' for negation or '!=' for inequality"
  | lineContinuation => "write the formula without '\\'"
  | nestedTooDeep _ => "split the formula into simpler expressions"
  | assignment _ => "use == to compare values"
  | endsEarly (.operator token) =>
    "remove the trailing '" ++ token.text ++ "' or add an operand after it"
  | endsEarly .opening => "close the open bracket"
  | endsEarly .other => "complete the expression"
  | strayClosing bracket => "remove the extra '" ++ bracket.closing ++ "'"
  | severalStatements => "write a single expression"
  | membership => "use == or != instead"
  | missingOperator _ => "add an operator between the operands"
  | strayColon => "slices and annotations are not supported"
  | comprehension => "use sum(), min() or max() over an explicit list"
  | unclosed bracket _ => "add a closing '" ++ bracket.closing ++ "'"
  | slice => "index a single element with [n]"
  | empty => "enter an expression such as ram_gb * 2.5"
  | missingElse => "write it as: value if condition else other"
  | formattedString => "compute numbers with arithmetic instead of string formatting"
  | leadingWord _ => "add an operand before the keyword"
  | braces => "use a list [a, b] instead"
  | attributeOfValue _ => "reference nested fields directly, e.g. cpu.cores"
  | methodCall _ | unnamedCallee | unknownFunction _ =>
    "allowed functions: " ++ Text.join ", " functions
  | keywordArgument name => "pass '" ++ name ++ "' positionally"
  | unpackedArgument => "pass a list as a single argument instead"
  | _ => none

/-- Whether the text is well formed and merely not allowed. -/
def isRefusal : Complaint → Bool
  | tooLong .. | nestedTooDeep _ | treeTooHigh _ | assignment _ | statement _ | bitwise _
  | severalStatements | membership | comprehension | slice | formattedString | braces
  | reservedName _ | reservedAttribute _ | attributeOfValue _ | methodCall _ | unnamedCallee
  | unknownFunction _ | keywordArgument _ | unpackedArgument | wrongCount .. => true
  | _ => false

end Complaint

/-- A complaint about a formula and the number of characters before the place it is about. -/
structure ParseError where
  complaint : Complaint
  position : Nat

end Appraisal
