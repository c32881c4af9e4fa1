import Appraisal.Proofs.Formula.Grammar

/-!
# Readings spelled out

Different tokens may say the same: brackets may be left out, and a list may end in a comma. The
words of a reading (`BarePhrase.words`) spell it out with brackets around every operation.

* The words of what tokens say are words for it (`Grammar.Derives.words`).
* They hold the constants of the tokens in the same order (`Grammar.Derives.filter_isConstant`).
-/

namespace Appraisal

/-! ### Words -/

/-- Whether a token is a number or a text. -/
def Token.isConstant : Token → Bool
  | .int _ | .float _ | .string _ => true
  | _ => false

namespace Token

@[simp] theorem isConstant_int (i : Int64) : (int i).isConstant = true := rfl

@[simp] theorem isConstant_float (v : Float) : (float v).isConstant = true := rfl

@[simp] theorem isConstant_string (s : String) : (string s).isConstant = true := rfl

@[simp] theorem isConstant_name (s : String) : (name s).isConstant = false := rfl

@[simp] theorem isConstant_comparison (op : Comparison) : (comparison op).isConstant = false := rfl

@[simp] theorem isConstant_openParen : openParen.isConstant = false := rfl

@[simp] theorem isConstant_closeParen : closeParen.isConstant = false := rfl

@[simp] theorem isConstant_openBracket : openBracket.isConstant = false := rfl

@[simp] theorem isConstant_closeBracket : closeBracket.isConstant = false := rfl

@[simp] theorem isConstant_comma : comma.isConstant = false := rfl

@[simp] theorem isConstant_dot : dot.isConstant = false := rfl

@[simp] theorem isConstant_doubleStar : doubleStar.isConstant = false := rfl

end Token

/-- The words for a constant. A list has none. -/
def Value.words : Value → List Token
  | .null => [.name "None"]
  | .bool b => [.name (if b then "True" else "False")]
  | .int i => [.int i]
  | .float v => [.float v]
  | .string s => [.string s]
  | .list _ => []

/-- The word for an arithmetic operator. -/
def ArithmeticOp.token : ArithmeticOp → Token
  | add => .plus
  | sub => .minus
  | mul => .star
  | div => .slash
  | floorDiv => .doubleSlash
  | mod => .percent
  | pow => .doubleStar

/-- The word for a unary operator. -/
def UnaryOp.token : UnaryOp → Token
  | neg => .minus
  | pos => .plus
  | not => .name "not"

namespace BarePhrase

/-- Rows of words with commas between them. -/
def separated : List (List Token) → List Token
  | [] => []
  | [ts] => ts
  | ts :: rest => ts ++ .comma :: separated rest

/-- The comma that tells a tuple of one item from a phrase in brackets. -/
def tupleMark {α : Type} : List α → List Token
  | [_] => [.comma]
  | _ => []

mutual

/-- The words of a reading, with brackets around every operation. An argument that is not kept reads
like one with an empty value. -/
def words : BarePhrase → List Token
  | .literal v => v.words
  | .name s => [.name s]
  | .member object s => object.words ++ [.dot, .name s]
  | .arithmetic op left right =>
    .openParen :: (left.words ++ op.token :: right.words) ++ [.closeParen]
  | .unary op operand => .openParen :: (op.token :: operand.words) ++ [.closeParen]
  | .comparison first links => .openParen :: (first.words ++ wordsLinks links) ++ [.closeParen]
  | .logical op left right =>
    .openParen :: (left.words ++ .name op.word :: right.words) ++ [.closeParen]
  | .call callee given =>
    callee.words ++ .openParen :: separated (wordsGiven given) ++ [.closeParen]
  | .conditional test yes no =>
    .openParen :: (yes.words ++ .name "if" :: test.words ++ .name "else" :: no.words) ++
      [.closeParen]
  | .list items => .openBracket :: separated (wordsAll items) ++ [.closeBracket]
  | .tuple items => .openParen :: (separated (wordsAll items) ++ tupleMark items) ++ [.closeParen]
  | .subscript object index => object.words ++ .openBracket :: index.words ++ [.closeBracket]

/-- The words of several readings. -/
def wordsAll : List BarePhrase → List (List Token)
  | [] => []
  | e :: rest => e.words :: wordsAll rest

/-- The words of the links of a comparison chain. -/
def wordsLinks : List (Comparison × BarePhrase) → List Token
  | [] => []
  | (op, e) :: rest => .comparison op :: e.words ++ wordsLinks rest

/-- The words of the arguments of a call. -/
def wordsGiven : List (Given BarePhrase) → List (List Token)
  | [] => []
  | .positional e :: rest => e.words :: wordsGiven rest
  | .keyword s :: rest => [.name s, .assign, .name "None"] :: wordsGiven rest
  | .unpacked :: rest => [.star, .name "None"] :: wordsGiven rest

end

mutual

/-- All arguments of calls in a reading are positional. -/
def Positional : BarePhrase → Prop
  | .literal _ | .name _ => True
  | .member object _ => object.Positional
  | .arithmetic _ left right | .logical _ left right => left.Positional ∧ right.Positional
  | .unary _ operand => operand.Positional
  | .comparison first links => first.Positional ∧ PositionalLinks links
  | .call callee given => callee.Positional ∧ PositionalGiven given
  | .conditional test yes no => test.Positional ∧ yes.Positional ∧ no.Positional
  | .list items | .tuple items => PositionalAll items
  | .subscript object index => object.Positional ∧ index.Positional

/-- All arguments of calls in several readings are positional. -/
def PositionalAll : List BarePhrase → Prop
  | [] => True
  | e :: rest => e.Positional ∧ PositionalAll rest

/-- All arguments of calls in the operands of a comparison chain are positional. -/
def PositionalLinks : List (Comparison × BarePhrase) → Prop
  | [] => True
  | (_, e) :: rest => e.Positional ∧ PositionalLinks rest

/-- All arguments are positional, and so are those of the calls in them. -/
def PositionalGiven : List (Given BarePhrase) → Prop
  | [] => True
  | .positional e :: rest => e.Positional ∧ PositionalGiven rest
  | .keyword _ :: _ | .unpacked :: _ => False

end

/-- The words of an argument. -/
def wordsArgument : Given BarePhrase → List Token
  | .positional e => e.words
  | .keyword s => [.name s, .assign, .name "None"]
  | .unpacked => [.star, .name "None"]

theorem wordsGiven_cons (a : Given BarePhrase) (rest : List (Given BarePhrase)) :
    wordsGiven (a :: rest) = wordsArgument a :: wordsGiven rest := by
  cases a <;> rfl

end BarePhrase

namespace Grammar

open BarePhrase Category

variable {ts : List Token} {e : BarePhrase}

/-! ### Brackets -/

theorem Derives.signed_of_primary (h : Derives .primary ts e) : Derives .signed ts e :=
  .power (.primary h)

theorem Derives.sum_of_primary (h : Derives .primary ts e) : Derives .sum ts e :=
  .term (.signed h.signed_of_primary)

theorem Derives.negation_of_primary (h : Derives .primary ts e) : Derives .negation ts e :=
  .comparison (.sum h.sum_of_primary)

theorem Derives.disjunction_of_primary (h : Derives .primary ts e) : Derives .disjunction ts e :=
  .conjunction (.negation h.negation_of_primary)

theorem Derives.expression_of_primary (h : Derives .primary ts e) : Derives .expression ts e :=
  .value h.disjunction_of_primary

/-- A phrase in brackets is as tight as a phrase can be. -/
theorem Derives.enclose (h : Derives .expression ts e) :
    Derives .primary (.openParen :: ts ++ [.closeParen]) e :=
  .atom (.bracketed h)

theorem Derives.enclose_negation (h : Derives .negation ts e) :
    Derives .primary (.openParen :: ts ++ [.closeParen]) e :=
  enclose (.value (.conjunction (.negation h)))

theorem Derives.enclose_sum (h : Derives .sum ts e) :
    Derives .primary (.openParen :: ts ++ [.closeParen]) e :=
  enclose_negation (.comparison (.sum h))

theorem Derives.enclose_signed (h : Derives .signed ts e) :
    Derives .primary (.openParen :: ts ++ [.closeParen]) e :=
  enclose_sum (.term (.signed h))

/-! ### The words of what is said -/

/-- The words of what a category says are words for it, which may stand where the category may. -/
def Category.SpelledOut : (k : Category) → k.Meaning → Prop
  | links, ls => Derives links (wordsLinks ls) ls
  | items, es => Derives items (separated (wordsAll es)) es
  | argument, a => Derives argument (wordsArgument a) a
  | arguments, as => Derives arguments (separated (wordsGiven as)) as
  | expression, e | disjunction, e | conjunction, e | negation, e | comparison, e | sum, e
  | term, e | signed, e | power, e | primary, e | atom, e => Derives primary e.words e

theorem derives_constant {s : String} {v : Value} (h : (s, v) ∈ constants) :
    Derives .primary v.words (.literal v) := by
  simp only [constants, List.mem_cons, Prod.mk.injEq, List.not_mem_nil, or_false] at h
  rcases h with ⟨-, rfl⟩ | ⟨-, rfl⟩ | ⟨-, rfl⟩ | ⟨-, rfl⟩ | ⟨-, rfl⟩ | ⟨-, rfl⟩ <;>
    exact .atom (.constant (by simp [constants]))

/-- A word for a value that is not kept. -/
theorem derives_none : Derives .expression [.name "None"] (.literal .null) :=
  (derives_constant (v := .null) (s := "None") (by simp [constants])).expression_of_primary

theorem token_of_sums {t : Token} {op : ArithmeticOp} (h : (t, op) ∈ sums) : op.token = t := by
  simp only [sums, List.mem_cons, Prod.mk.injEq, List.not_mem_nil, or_false] at h
  rcases h with ⟨rfl, rfl⟩ | ⟨rfl, rfl⟩ <;> rfl

theorem token_of_products {t : Token} {op : ArithmeticOp} (h : (t, op) ∈ products) :
    op.token = t := by
  simp only [products, List.mem_cons, Prod.mk.injEq, List.not_mem_nil, or_false] at h
  rcases h with ⟨rfl, rfl⟩ | ⟨rfl, rfl⟩ | ⟨rfl, rfl⟩ | ⟨rfl, rfl⟩ <;> rfl

theorem token_of_signs {t : Token} {op : UnaryOp} (h : (t, op) ∈ signs) : op.token = t := by
  simp only [signs, List.mem_cons, Prod.mk.injEq, List.not_mem_nil, or_false] at h
  rcases h with ⟨rfl, rfl⟩ | ⟨rfl, rfl⟩ <;> rfl

/-- **What tokens say can be spelled out.** -/
theorem Derives.words {k : Category} {ts : List Token} {r : k.Meaning} (h : Derives k ts r) :
    k.SpelledOut r := by
  induction h with
  | value _ ih | conjunction _ ih | negation _ ih | comparison _ ih | sum _ ih | term _ ih
  | signed _ ih | power _ ih | primary _ ih | atom _ ih | bracketed _ ih => exact ih
  | choice _ _ _ ihyes ihtest ihno =>
    exact enclose (.choice ihyes.disjunction_of_primary ihtest.disjunction_of_primary
      ihno.expression_of_primary)
  | or _ _ ihl ihr =>
    exact enclose (.value (.or ihl.disjunction_of_primary (.negation ihr.negation_of_primary)))
  | and _ _ ihl ihr =>
    exact enclose (.value (.conjunction (.and (.negation ihl.negation_of_primary)
      ihr.negation_of_primary)))
  | not _ ih => exact enclose_negation (.not ih.negation_of_primary)
  | compare _ _ ih ihlinks =>
    exact enclose_negation (.comparison (.compare ih.sum_of_primary ihlinks))
  | noLinks => exact .noLinks
  | link _ _ ih ihlinks => exact .link ih.sum_of_primary ihlinks
  | add hop _ _ ihl ihr =>
    cases token_of_sums hop
    exact enclose_sum (.add hop ihl.sum_of_primary (.signed ihr.signed_of_primary))
  | multiply hop _ _ ihl ihr =>
    cases token_of_products hop
    exact enclose_sum (.term (.multiply hop (.signed ihl.signed_of_primary) ihr.signed_of_primary))
  | sign hop _ ih =>
    cases token_of_signs hop
    exact enclose_signed (.sign hop ih.signed_of_primary)
  | raise _ _ ih ihe => exact enclose_signed (.power (.raise ih ihe.signed_of_primary))
  | member _ ih => exact .member ih
  | call _ _ ih ihgiven => exact .call ih ihgiven
  | subscript _ _ ih ihindex => exact .subscript ih ihindex.expression_of_primary
  | noArguments => exact .noArguments
  | lastArgument _ ih =>
    simp only [Category.SpelledOut, wordsGiven_cons]
    exact .lastArgument ih
  | @moreArguments _ _ a more _ _ ih ihmore =>
    cases more with
    | nil =>
      simp only [Category.SpelledOut, wordsGiven_cons]
      exact .lastArgument ih
    | cons b more =>
      simp only [Category.SpelledOut, wordsGiven_cons] at ihmore ⊢
      exact .moreArguments ih ihmore
  | positional _ ih => exact .positional ih.expression_of_primary
  | keyword => exact .keyword derives_none
  | unpacked => exact .unpacked (by simp) derives_none
  | noItems => exact .noItems
  | lastItem _ ih => exact .lastItem ih.expression_of_primary
  | @moreItems _ _ e more _ _ ih ihmore =>
    cases more with
    | nil => exact .lastItem ih.expression_of_primary
    | cons => exact .moreItems ih.expression_of_primary ihmore
  | int => exact .atom .int
  | float => exact .atom .float
  | string => exact .atom .string
  | constant hs => exact derives_constant hs
  | name hs hne => exact .atom (.name hs hne)
  | emptyTuple => exact .atom .emptyTuple
  | @tuple _ _ e more _ _ ih ihmore =>
    cases more with
    | nil => exact .atom (.tuple ih.expression_of_primary .noItems)
    | cons =>
      show Derives .primary (_ :: (_ ++ []) ++ _) _
      rw [List.append_nil]
      exact .atom (.tuple ih.expression_of_primary ihmore)
  | list _ ih => exact .atom (.list ih)

/-! ### What the words hold -/

/-- The words of what a category says. -/
def Category.words : (k : Category) → k.Meaning → List Token
  | links, ls => wordsLinks ls
  | items, es => separated (wordsAll es)
  | argument, a => wordsArgument a
  | arguments, as => separated (wordsGiven as)
  | expression, e | disjunction, e | conjunction, e | negation, e | comparison, e | sum, e
  | term, e | signed, e | power, e | primary, e | atom, e => e.words

/-- What a category says has positional arguments only. -/
def Category.Positional : (k : Category) → k.Meaning → Prop
  | links, ls => PositionalLinks ls
  | items, es => PositionalAll es
  | argument, a => PositionalGiven [a]
  | arguments, as => PositionalGiven as
  | expression, e | disjunction, e | conjunction, e | negation, e | comparison, e | sum, e
  | term, e | signed, e | power, e | primary, e | atom, e => e.Positional

@[simp] theorem isConstant_arithmeticOp (op : ArithmeticOp) : op.token.isConstant = false := by
  cases op <;> rfl

@[simp] theorem isConstant_unaryOp (op : UnaryOp) : op.token.isConstant = false := by
  cases op <;> rfl

@[simp] theorem filter_isConstant_separated (tss : List (List Token)) :
    (separated tss).filter Token.isConstant = tss.flatten.filter Token.isConstant := by
  fun_induction separated tss <;> simp_all

@[simp] theorem filter_isConstant_tupleMark {α : Type} (as : List α) :
    (tupleMark as).filter Token.isConstant = [] := by
  unfold tupleMark
  split <;> rfl

theorem filter_isConstant_words {s : String} {v : Value} (h : (s, v) ∈ constants) :
    v.words.filter Token.isConstant = [] := by
  simp only [constants, List.mem_cons, Prod.mk.injEq, List.not_mem_nil, or_false] at h
  rcases h with ⟨-, rfl⟩ | ⟨-, rfl⟩ | ⟨-, rfl⟩ | ⟨-, rfl⟩ | ⟨-, rfl⟩ | ⟨-, rfl⟩ <;> rfl

theorem positionalGiven_cons (a : Given BarePhrase) (rest : List (Given BarePhrase)) :
    PositionalGiven (a :: rest) ↔ PositionalGiven [a] ∧ PositionalGiven rest := by
  cases a <;> simp [PositionalGiven]

/-- The words hold the constants of the tokens in the same order. -/
theorem Derives.filter_isConstant {k : Category} {ts : List Token} {r : k.Meaning}
    (h : Derives k ts r) : k.Positional r →
      (k.words r).filter Token.isConstant = ts.filter Token.isConstant := by
  -- by induction on the derivation; a rule adds no constants, save those of the atoms
  induction h with
  | add hop =>
    cases token_of_sums hop
    simp_all [Category.words, Category.Positional, BarePhrase.words, BarePhrase.Positional]
  | multiply hop =>
    cases token_of_products hop
    simp_all [Category.words, Category.Positional, BarePhrase.words, BarePhrase.Positional]
  | sign hop =>
    cases token_of_signs hop
    simp_all [Category.words, Category.Positional, BarePhrase.words, BarePhrase.Positional]
  | constant hs => exact fun _ => filter_isConstant_words hs
  | keyword | unpacked => exact False.elim
  | positional _ ih => exact fun h => ih h.1
  | moreArguments _ _ ih ihmore =>
    intro hpositional
    obtain ⟨ha, hmore⟩ := (positionalGiven_cons _ _).1 hpositional
    have := ih ha
    have := ihmore hmore
    simp_all [Category.words, wordsGiven_cons]
  | _ =>
    simp_all [Category.words, Category.Positional, BarePhrase.words, BarePhrase.Positional,
      wordsAll, wordsLinks, wordsGiven_cons, PositionalAll, PositionalLinks, Value.words,
      wordsGiven]

end Grammar

end Appraisal
