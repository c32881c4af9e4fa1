import Appraisal.Pattern.Basic

/-!
# What every match of a pattern has in common

How many bytes a match takes at least and at most, and whether it is held to the start or to the
end of the text.
-/

namespace Appraisal.Pattern

/-! ### Length -/

/-- The fewest bytes of a character of a set. -/
def narrowest? (s : CharSet) : Option Nat :=
  s.runs.head?.map fun run => (Char.ofNat run.1).utf8Size

/-- The most bytes of a character of a set. -/
def widest? (s : CharSet) : Option Nat :=
  s.runs.getLast?.map fun run => (Char.ofNat run.2).utf8Size

/-- How many bytes a text takes. -/
def bytesOf (text : List Char) : Nat := text.foldl (fun n c => n + c.utf8Size) 0

/-- How many bytes a match takes at least, unless some part of the pattern matches nothing. -/
def shortest? : Pattern → Option Nat
  | empty | assertion _ _ => some 0
  | literal text => some (bytesOf text)
  | oneOf s => narrowest? s
  | group _ p => p.shortest?
  | times low _ _ p => p.shortest?.map (low * ·)
  | seq p q => do return (← p.shortest?) + (← q.shortest?)
  | alt p q => do return min (← p.shortest?) (← q.shortest?)

/-- How many bytes a match takes at most, if there is a bound and no part of the pattern matches
nothing. -/
def longest? : Pattern → Option Nat
  | empty | assertion _ _ => some 0
  | literal text => some (bytesOf text)
  | oneOf s => widest? s
  | group _ p => p.longest?
  | times _ high _ p => do return (← high) * (← p.longest?)
  | seq p q => do return (← p.longest?) + (← q.longest?)
  | alt p q => do return max (← p.longest?) (← q.longest?)

/-- Whether a match takes no characters. -/
def takesNothing (p : Pattern) : Bool := p.longest? == some 0

/-- Whether a match takes some characters. -/
def takesSomething (p : Pattern) : Bool := p.shortest?.any (0 < ·)

/-! ### Place -/

/-- Whether the pattern asks for the start of the text before it takes any characters. -/
def fromTextStart : Pattern → Bool
  | assertion .textStart _ => true
  | empty | literal _ | oneOf _ | assertion _ _ => false
  | group _ p => p.fromTextStart
  | times low _ _ p => 0 < low && p.fromTextStart
  | seq p q => p.fromTextStart || (p.takesNothing && q.fromTextStart)
  | alt p q => p.fromTextStart && q.fromTextStart

/-- Whether the pattern asks for the end of the text after it has taken all characters. -/
def toTextEnd : Pattern → Bool
  | assertion .textEnd _ => true
  | empty | literal _ | oneOf _ | assertion _ _ => false
  | group _ p => p.toTextEnd
  | times low _ _ p => 0 < low && p.toTextEnd
  | seq p q => q.toTextEnd || (p.toTextEnd && q.takesNothing)
  | alt p q => p.toTextEnd && q.toTextEnd

end Appraisal.Pattern
