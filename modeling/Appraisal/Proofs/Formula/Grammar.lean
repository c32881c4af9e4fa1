import Appraisal.Proofs.Formula.Placement

/-!
# The grammar of formulas

What a list of tokens says, told without a parser: a grammar with one category for each level of
precedence (`Derives`). A derivation gives the tokens a reading, which is a phrase without its
places (`BarePhrase`, `Phrase.reading`).

* No derivation holds the end of the formula (`Derives.finish_not_mem`).
* A value begins with a token that opens one, and no assignment follows that token
  (`Derives.starts`), so two tokens tell the kinds of arguments apart.
-/

namespace Appraisal

/-! ### Readings -/

/-- An argument of a call as it reads. Only those that may be evaluated keep a value. -/
inductive Given (α : Type)
  | positional (value : α)
  | keyword (name : String)
  | unpacked

/-- A phrase without its places. -/
inductive BarePhrase
  | literal (value : Value)
  | name (name : String)
  | member (object : BarePhrase) (name : String)
  | arithmetic (op : ArithmeticOp) (left right : BarePhrase)
  | unary (op : UnaryOp) (operand : BarePhrase)
  | comparison (first : BarePhrase) (links : List (Comparison × BarePhrase))
  | logical (op : LogicalOp) (left right : BarePhrase)
  | call (callee : BarePhrase) (arguments : List (Given BarePhrase))
  | conditional (test yes no : BarePhrase)
  | list (items : List BarePhrase)
  | tuple (items : List BarePhrase)
  | subscript (object index : BarePhrase)

namespace Phrase

mutual

/-- What a phrase says, wherever its parts stand. -/
def reading : Phrase → BarePhrase
  | .literal _ v => .literal v
  | .name _ s => .name s
  | .member _ object s => .member object.reading s
  | .arithmetic _ op left right => .arithmetic op left.reading right.reading
  | .unary _ op operand => .unary op operand.reading
  | .comparison _ first links => .comparison first.reading (readingLinks links)
  | .logical _ op left right => .logical op left.reading right.reading
  | .call _ callee arguments => .call callee.reading (readingArguments arguments)
  | .conditional _ test yes no => .conditional test.reading yes.reading no.reading
  | .list _ items => .list (readingAll items)
  | .tuple _ items => .tuple (readingAll items)
  | .subscript _ object index => .subscript object.reading index.reading

/-- Several phrases without their places. -/
def readingAll : List Phrase → List BarePhrase
  | [] => []
  | e :: rest => e.reading :: readingAll rest

/-- The links of a comparison chain without their places. -/
def readingLinks : List (Comparison × Phrase) → List (Comparison × BarePhrase)
  | [] => []
  | (op, e) :: rest => (op, e.reading) :: readingLinks rest

/-- The arguments of a call without their places. -/
def readingArguments : List (Argument Phrase) → List (Given BarePhrase)
  | [] => []
  | .positional e :: rest => .positional e.reading :: readingArguments rest
  | .keyword s _ :: rest => .keyword s :: readingArguments rest
  | .unpacked _ :: rest => .unpacked :: readingArguments rest

end

/-- An argument without its place. -/
def readingArgument : Argument Phrase → Given BarePhrase
  | .positional e => .positional e.reading
  | .keyword s _ => .keyword s
  | .unpacked _ => .unpacked

theorem readingArguments_cons (a : Argument Phrase) (rest : List (Argument Phrase)) :
    readingArguments (a :: rest) = readingArgument a :: readingArguments rest := by
  cases a <;> rfl

@[simp] theorem reading_startingAt (e : Phrase) (p : Nat) :
    (e.startingAt p).reading = e.reading := by
  cases e <;> simp only [startingAt, reading]

end Phrase

/-! ### The grammar -/

namespace Grammar

/-- The operators of sums. -/
def sums : List (Token × ArithmeticOp) := [(.plus, .add), (.minus, .sub)]

/-- The operators of terms. -/
def products : List (Token × ArithmeticOp) :=
  [(.star, .mul), (.slash, .div), (.doubleSlash, .floorDiv), (.percent, .mod)]

/-- The signs. -/
def signs : List (Token × UnaryOp) := [(.minus, .neg), (.plus, .pos)]

/-- The words for constants. -/
def constants : List (String × Value) :=
  [("True", .bool true), ("true", .bool true), ("False", .bool false), ("false", .bool false),
    ("None", .null), ("null", .null)]

/-- The categories of the grammar: the levels of precedence from the loosest to the tightest, and
the rows that occur in them. -/
inductive Category
  | expression
  | disjunction
  | conjunction
  | negation
  | comparison
  | sum
  | term
  | signed
  | power
  | primary
  | atom
  /-- The links of a comparison chain after its first operand. -/
  | links
  /-- The items of a tuple or a list. -/
  | items
  | argument
  /-- The arguments of a call. -/
  | arguments

/-- What the tokens of a category say. -/
abbrev Category.Meaning : Category → Type
  | links => List (Comparison × BarePhrase)
  | items => List BarePhrase
  | argument => Given BarePhrase
  | arguments => List (Given BarePhrase)
  | _ => BarePhrase

open Category

/-- The tokens `ts` are in the category `k` and say `r`. -/
inductive Derives : (k : Category) → (ts : List Token) → (r : k.Meaning) → Prop
  -- expression = disjunction ['if' disjunction 'else' expression]
  | value {ts e} : Derives disjunction ts e → Derives expression ts e
  | choice {ts us vs yes test no} : Derives disjunction ts yes → Derives disjunction us test →
    Derives expression vs no →
    Derives expression (ts ++ .name "if" :: us ++ .name "else" :: vs) (.conditional test yes no)
  -- disjunction = conjunction ('or' conjunction)*, grouped to the left
  | conjunction {ts e} : Derives conjunction ts e → Derives disjunction ts e
  | or {ts us l r} : Derives disjunction ts l → Derives conjunction us r →
    Derives disjunction (ts ++ .name "or" :: us) (.logical .or l r)
  -- conjunction = negation ('and' negation)*, grouped to the left
  | negation {ts e} : Derives negation ts e → Derives conjunction ts e
  | and {ts us l r} : Derives conjunction ts l → Derives negation us r →
    Derives conjunction (ts ++ .name "and" :: us) (.logical .and l r)
  -- negation = 'not' negation | comparison
  | not {ts e} : Derives negation ts e → Derives negation (.name "not" :: ts) (.unary .not e)
  | comparison {ts e} : Derives comparison ts e → Derives negation ts e
  -- comparison = sum (operator sum)*, one chain
  | sum {ts e} : Derives sum ts e → Derives comparison ts e
  | compare {ts us first link more} : Derives sum ts first → Derives links us (link :: more) →
    Derives comparison (ts ++ us) (.comparison first (link :: more))
  | noLinks : Derives links [] []
  | link {op ts us e more} : Derives sum ts e → Derives links us more →
    Derives links (.comparison op :: ts ++ us) ((op, e) :: more)
  -- sum = term (('+' | '-') term)*, grouped to the left
  | term {ts e} : Derives term ts e → Derives sum ts e
  | add {t op ts us l r} (h : (t, op) ∈ sums) : Derives sum ts l → Derives term us r →
    Derives sum (ts ++ t :: us) (.arithmetic op l r)
  -- term = signed (('*' | '/' | '//' | '%') signed)*, grouped to the left
  | signed {ts e} : Derives signed ts e → Derives term ts e
  | multiply {t op ts us l r} (h : (t, op) ∈ products) : Derives term ts l → Derives signed us r →
    Derives term (ts ++ t :: us) (.arithmetic op l r)
  -- signed = ('-' | '+') signed | power
  | sign {t op ts e} (h : (t, op) ∈ signs) : Derives signed ts e →
    Derives signed (t :: ts) (.unary op e)
  | power {ts e} : Derives power ts e → Derives signed ts e
  -- power = primary ['**' signed]
  | primary {ts e} : Derives primary ts e → Derives power ts e
  | raise {ts us base e} : Derives primary ts base → Derives signed us e →
    Derives power (ts ++ .doubleStar :: us) (.arithmetic .pow base e)
  -- primary = atom ('.' name | '(' arguments ')' | '[' expression ']')*
  | atom {ts e} : Derives atom ts e → Derives primary ts e
  | member {ts e s} : Derives primary ts e →
    Derives primary (ts ++ [.dot, .name s]) (.member e s)
  | call {ts us e given} : Derives primary ts e → Derives arguments us given →
    Derives primary (ts ++ .openParen :: us ++ [.closeParen]) (.call e given)
  | subscript {ts us e index} : Derives primary ts e → Derives expression us index →
    Derives primary (ts ++ .openBracket :: us ++ [.closeBracket]) (.subscript e index)
  -- arguments = [argument (',' argument)* [',']]
  | noArguments : Derives arguments [] []
  | lastArgument {ts a} : Derives argument ts a → Derives arguments ts [a]
  | moreArguments {ts us a more} : Derives argument ts a → Derives arguments us more →
    Derives arguments (ts ++ .comma :: us) (a :: more)
  -- argument = expression | name '=' expression | ('*' | '**') expression
  | positional {ts e} : Derives expression ts e → Derives argument ts (.positional e)
  | keyword {s ts e} : Derives expression ts e →
    Derives argument (.name s :: .assign :: ts) (.keyword s)
  | unpacked {t ts e} (h : t ∈ [Token.star, .doubleStar]) : Derives expression ts e →
    Derives argument (t :: ts) .unpacked
  -- items = [expression (',' expression)* [',']]
  | noItems : Derives items [] []
  | lastItem {ts e} : Derives expression ts e → Derives items ts [e]
  | moreItems {ts us e more} : Derives expression ts e → Derives items us more →
    Derives items (ts ++ .comma :: us) (e :: more)
  -- atom = number | string | name | '(' expression ')' | tuple | '[' items ']'
  | int {i} : Derives atom [.int i] (.literal (.int i))
  | float {v} : Derives atom [.float v] (.literal (.float v))
  | string {s} : Derives atom [.string s] (.literal (.string s))
  | constant {s v} (h : (s, v) ∈ constants) : Derives atom [.name s] (.literal v)
  | name {s} (h : IsFieldName s) (hs : ∀ v, (s, v) ∉ constants) : Derives atom [.name s] (.name s)
  | bracketed {ts e} : Derives expression ts e →
    Derives atom (.openParen :: ts ++ [.closeParen]) e
  -- tuple = '(' ')' | '(' expression ',' items ')'
  | emptyTuple : Derives atom [.openParen, .closeParen] (.tuple [])
  | tuple {ts us e more} : Derives expression ts e → Derives items us more →
    Derives atom (.openParen :: (ts ++ .comma :: us) ++ [.closeParen]) (.tuple (e :: more))
  | list {ts es} : Derives items ts es →
    Derives atom (.openBracket :: ts ++ [.closeBracket]) (.list es)

/-- The tokens of a whole formula say `r`: the end follows an expression. -/
def Says (tokens : List Token) (r : BarePhrase) : Prop :=
  ∃ ts, tokens = ts ++ [.finish] ∧ Derives expression ts r

/-! ### First tokens -/

/-- The kinds of values that a token may open: from 0 on atoms, from 1 on values with a sign, from
2 on denied ones. From 3 on there are none. -/
def opening : Token → Nat
  | .int _ | .float _ | .string _ | .openParen | .openBracket => 0
  | .plus | .minus => 1
  | .name s => if s = "not" then 2 else 0
  | _ => 3

/-- The first token opens a value of a kind, and the second one is no assignment. -/
def Begins (kind : Nat) : List Token → Prop
  | [] => False
  | t :: rest => opening t ≤ kind ∧ rest.head? ≠ some .assign

section Begins

variable {kind : Nat} {ts us : List Token}

theorem head?_append_ne {t : Token} (h : ts.head? ≠ some t) (hus : us.head? ≠ some t) :
    (ts ++ us).head? ≠ some t := by
  cases ts with
  | nil => exact hus
  | cons => exact h

theorem Begins.append (h : Begins kind ts) (hus : us.head? ≠ some .assign) :
    Begins kind (ts ++ us) := by
  cases ts with
  | nil => exact h.elim
  | cons => exact ⟨h.1, head?_append_ne h.2 hus⟩

theorem Begins.mono {kind' : Nat} (h : Begins kind ts) (hk : kind ≤ kind') : Begins kind' ts := by
  cases ts with
  | nil => exact h
  | cons => exact ⟨Nat.le_trans h.1 hk, h.2⟩

theorem Begins.length_pos (h : Begins kind ts) : 0 < ts.length := by
  cases ts with
  | nil => exact h.elim
  | cons => exact Nat.succ_pos _

/-- A value of a kind does not begin with a token that opens none of it. -/
theorem Begins.head?_ne {t : Token} (h : Begins kind ts) (ht : kind < opening t) :
    ts.head? ≠ some t := by
  cases ts with
  | nil => nofun
  | cons =>
    rintro ⟨⟩
    exact Nat.not_le.2 ht h.1

theorem Begins.cons {t : Token} (ht : opening t ≤ kind) (h : Begins 2 ts) :
    Begins kind (t :: ts) :=
  ⟨ht, h.head?_ne (by decide)⟩

end Begins

/-- How the tokens of a category begin. -/
def Category.Starts : Category → List Token → Prop
  | expression, ts | disjunction, ts | conjunction, ts | negation, ts => Begins 2 ts
  | comparison, ts | sum, ts | term, ts | signed, ts => Begins 1 ts
  | power, ts | primary, ts | atom, ts => Begins 0 ts
  | links, ts => ∀ t, ts.head? = some t → ∃ op, t = .comparison op
  | items, ts => ts.head? ≠ some .assign
  | argument, ts => 0 < ts.length ∧ ts.head? ≠ some .closeParen
  | arguments, _ => True

theorem opening_of_signs {t : Token} {op : UnaryOp} (h : (t, op) ∈ signs) : opening t = 1 := by
  simp only [signs, List.mem_cons, Prod.mk.injEq, List.not_mem_nil, or_false] at h
  rcases h with ⟨rfl, -⟩ | ⟨rfl, -⟩ <;> rfl

theorem ne_assign_of_sums {t : Token} {op : ArithmeticOp} (h : (t, op) ∈ sums) : t ≠ .assign := by
  rintro rfl
  simp [sums] at h

theorem ne_assign_of_products {t : Token} {op : ArithmeticOp} (h : (t, op) ∈ products) :
    t ≠ .assign := by
  rintro rfl
  simp [products] at h

theorem opening_name_of_constants {s : String} {v : Value} (h : (s, v) ∈ constants) :
    opening (.name s) = 0 := by
  refine if_neg ?_
  rintro rfl
  simp [constants] at h

theorem opening_name_of_isFieldName {s : String} (h : IsFieldName s) : opening (.name s) = 0 := by
  refine if_neg ?_
  rintro rfl
  exact h.2 (by decide)

theorem Derives.starts {k : Category} {ts : List Token} {r : k.Meaning} (h : Derives k ts r) :
    k.Starts ts := by
  induction h with
  | value _ ih | conjunction _ ih | negation _ ih | sum _ ih | term _ ih | signed _ ih
  | primary _ ih | atom _ ih => exact ih
  | comparison _ ih | power _ ih => exact ih.mono (by decide)
  | choice _ _ _ ih => exact (ih.append (by simp)).append (by simp)
  | or _ _ ih | and _ _ ih | raise _ _ ih | member _ ih => exact ih.append (by simp)
  | call _ _ ih | subscript _ _ ih => exact (ih.append (by simp)).append (by simp)
  | compare _ _ ih ih' => exact ih.append fun h => by simpa using ih' _ h
  | add h _ _ ih => exact ih.append (by simpa using ne_assign_of_sums h)
  | multiply h _ _ ih => exact ih.append (by simpa using ne_assign_of_products h)
  | not _ ih => exact ih.cons (by decide)
  | sign h _ ih => exact (ih.mono (by decide)).cons (Nat.le_of_eq (opening_of_signs h))
  | noLinks | link => simp [Category.Starts]
  | noItems => simp [Category.Starts]
  | lastItem _ ih => exact ih.head?_ne (by decide)
  | moreItems _ _ ih => exact (ih.append (by simp)).head?_ne (by decide)
  | noArguments | lastArgument | moreArguments => trivial
  | positional _ ih => exact ⟨ih.length_pos, ih.head?_ne (by decide)⟩
  | keyword => simp [Category.Starts]
  | unpacked h =>
    refine ⟨by simp, ?_⟩
    rintro ⟨⟩
    simp at h
  | int | float | string | emptyTuple => exact ⟨Nat.le_refl 0, by simp⟩
  | constant h => exact ⟨Nat.le_of_eq (opening_name_of_constants h), by simp⟩
  | name h => exact ⟨Nat.le_of_eq (opening_name_of_isFieldName h), by simp⟩
  | bracketed _ ih => exact (ih.append (by simp)).cons (by decide)
  | tuple _ _ ih => exact ((ih.append (by simp)).append (by simp)).cons (by decide)
  | list _ ih => exact ⟨by decide, head?_append_ne ih (by simp)⟩

theorem Derives.finish_not_mem {k : Category} {ts : List Token} {r : k.Meaning}
    (h : Derives k ts r) : .finish ∉ ts := by
  induction h <;> grind [sums, products, signs]

end Grammar

end Appraisal
