import Appraisal.Proofs.Context.Spelling
import Appraisal.Proofs.Formula.Reach
import Appraisal.Proofs.Formula.Reading
import Appraisal.Proofs.Formula.Words

/-!
# The names of fields

A formula asks for a variable by its flat spelling and for a chain of names by its path. For a name
without points the two ways lead to the same field (`Context.variable_eq_path`), and no variable of
a parsed formula has a point in its name (`Expr.plain_of_parse`).

* A name that is cut from a text holds no point (`Lexer.IsWord.isPlain`).
* The names in a reading are names among the tokens (`Grammar.Derives.named`), and those of a formula
  are the names in its reading (`Expr.named_of_reading`).
-/

namespace Appraisal

variable {P : String → Prop}

/-! ### Names of variables -/

theorem Context.variable_eq_path (context : Context) {name : String} (h : IsPlain name) :
    context.variable name = context.path name := by
  rw [Context.variable, path, context.lookup?_eq_getFlat? h]

/-! ### Words -/

namespace Lexer

theorem ne_point_of_continuesName {c : Char} (h : continuesName c = true) : c ≠ '.' := by
  rintro rfl
  exact absurd h (by decide +kernel)

theorem ne_point_of_opensName {c : Char} (h : opensName c = true) : c ≠ '.' := by
  rintro rfl
  exact absurd h (by decide +kernel)

/-- No name in a text holds a point. -/
theorem IsWord.isPlain {name : String} (h : IsWord name) : IsPlain name := by
  obtain ⟨c, more, hname, hopens, hcontinues⟩ := h
  rw [IsPlain, hname, List.mem_cons, not_or]
  refine ⟨(ne_point_of_opensName hopens).symm, fun hmem => ?_⟩
  exact ne_point_of_continuesName (hcontinues _ hmem) rfl

end Lexer

/-! ### Readings -/

namespace BarePhrase

mutual

/-- Every name of a field or of an attribute satisfies `P`. -/
def Named (P : String → Prop) : BarePhrase → Prop
  | .literal _ => True
  | .name s => P s
  | .member object s => object.Named P ∧ P s
  | .arithmetic _ left right | .logical _ left right => left.Named P ∧ right.Named P
  | .unary _ operand => operand.Named P
  | .comparison first links => first.Named P ∧ NamedLinks P links
  | .call _ given => NamedGiven P given
  | .conditional test yes no => test.Named P ∧ yes.Named P ∧ no.Named P
  | .list items | .tuple items => NamedAll P items
  | .subscript object index => object.Named P ∧ index.Named P

/-- The names of several phrases satisfy `P`. -/
def NamedAll (P : String → Prop) : List BarePhrase → Prop
  | [] => True
  | e :: rest => e.Named P ∧ NamedAll P rest

/-- The names of the operands of a comparison chain satisfy `P`. -/
def NamedLinks (P : String → Prop) : List (Comparison × BarePhrase) → Prop
  | [] => True
  | (_, e) :: rest => e.Named P ∧ NamedLinks P rest

/-- The names of the positional arguments of a call satisfy `P`. -/
def NamedGiven (P : String → Prop) : List (Given BarePhrase) → Prop
  | [] => True
  | .positional e :: rest => e.Named P ∧ NamedGiven P rest
  | .keyword _ :: rest | .unpacked :: rest => NamedGiven P rest

end

end BarePhrase

namespace Grammar

open BarePhrase

/-- The names in what a category says satisfy `P`. -/
def Category.Named (P : String → Prop) : (k : Category) → k.Meaning → Prop
  | links, ls => NamedLinks P ls
  | items, es => NamedAll P es
  | argument, a => NamedGiven P [a]
  | arguments, as => NamedGiven P as
  | expression, e | disjunction, e | conjunction, e | negation, e | comparison, e | sum, e
  | term, e | signed, e | power, e | primary, e | atom, e => e.Named P

theorem namedGiven_cons {a : Given BarePhrase} {rest : List (Given BarePhrase)} :
    NamedGiven P (a :: rest) ↔ NamedGiven P [a] ∧ NamedGiven P rest := by
  cases a <;> simp [NamedGiven]

/-- The names in what tokens say are among the tokens. -/
theorem Derives.named {k : Category} {ts : List Token} {r : k.Meaning} (h : Derives k ts r)
    (hP : ∀ s, .name s ∈ ts → P s) : k.Named P r := by
  -- by induction on the derivation; what a rule says has the names of what its parts say, save
  -- that the rule of a name adds one
  induction h with
  | name => exact hP _ List.mem_cons_self
  | moreArguments _ _ ih ih' =>
    refine namedGiven_cons.2 ⟨ih fun s hs => ?_, ih' fun s hs => ?_⟩ <;>
      exact hP s (by simp [hs])
  | _ => simp_all [Category.Named, Named, NamedAll, NamedLinks, NamedGiven]

end Grammar

/-! ### Formulas -/

namespace Expr

variable {e : Expr}

/-- The name that a part of a formula adds to those of its own parts. -/
def ownName? : Expr → Option String
  | .variable name | .member _ name => some name
  | _ => none

/-- Every name in a formula satisfies `P`. -/
def Named (P : String → Prop) (e : Expr) : Prop :=
  ∀ t ∈ e.subtrees, ∀ name, t.ownName? = some name → P name

theorem named_iff :
    e.Named P ↔ (∀ name, e.ownName? = some name → P name) ∧ ∀ t ∈ e.children, t.Named P :=
  forall_subtrees

theorem Named.child {t : Expr} (h : e.Named P) (ht : t ∈ e.children) : t.Named P :=
  (named_iff.1 h).2 t ht

theorem Named.mono {Q : String → Prop} (h : e.Named P) (hPQ : ∀ name, P name → Q name) :
    e.Named Q :=
  fun t ht name hname => hPQ name (h t ht name hname)

mutual

/-- The names in a formula are those of its reading. -/
theorem named_of_reading : (e : Expr) → e.reading.Named P → e.Named P
  | .literal v, _ => named_iff.2 ⟨nofun, by simp [children]⟩
  | .variable name, h => by
    refine named_iff.2 ⟨?_, by simp [children]⟩
    rintro _ ⟨⟩
    exact h
  | .member object name, h => by
    refine named_iff.2 ⟨?_, by simpa [children] using named_of_reading object h.1⟩
    rintro _ ⟨⟩
    exact h.2
  | .arithmetic op left right, h => by
    have ihl := named_of_reading left h.1
    have ihr := named_of_reading right h.2
    exact named_iff.2 ⟨nofun, by simpa [children] using ⟨ihl, ihr⟩⟩
  | .unary op operand, h =>
    named_iff.2 ⟨nofun, by simpa [children] using named_of_reading operand h⟩
  | .comparison first links, h => by
    have ih := named_of_reading first h.1
    have ihs := named_of_readingLinks links h.2
    exact named_iff.2 ⟨nofun, List.forall_mem_cons.2 ⟨ih, List.forall_mem_map.2 ihs⟩⟩
  | .logical op left right, h => by
    have ihl := named_of_reading left h.1
    have ihr := named_of_reading right h.2
    exact named_iff.2 ⟨nofun, by simpa [children] using ⟨ihl, ihr⟩⟩
  | .call function arguments, h =>
    named_iff.2 ⟨nofun, named_of_readingArguments arguments h⟩
  | .conditional test yes no, h => by
    have iht := named_of_reading test h.1
    have ihy := named_of_reading yes h.2.1
    have ihn := named_of_reading no h.2.2
    exact named_iff.2 ⟨nofun, by simpa [children] using ⟨ihy, iht, ihn⟩⟩
  | .list items, h => named_iff.2 ⟨nofun, named_of_readingAll items h⟩
  | .tuple items, h => named_iff.2 ⟨nofun, named_of_readingAll items h⟩
  | .subscript object index, h => by
    have iho := named_of_reading object h.1
    have ihi := named_of_reading index h.2
    exact named_iff.2 ⟨nofun, by simpa [children] using ⟨iho, ihi⟩⟩

theorem named_of_readingAll : (items : List Expr) → BarePhrase.NamedAll P (readingAll items) →
    ∀ e ∈ items, e.Named P
  | [], _ => nofun
  | e :: rest, h =>
    List.forall_mem_cons.2 ⟨named_of_reading e h.1, named_of_readingAll rest h.2⟩

theorem named_of_readingLinks : (links : List (Comparison × Expr)) →
    BarePhrase.NamedLinks P (readingLinks links) → ∀ link ∈ links, link.2.Named P
  | [], _ => nofun
  | (_, e) :: rest, h =>
    List.forall_mem_cons.2 ⟨named_of_reading e h.1, named_of_readingLinks rest h.2⟩

theorem named_of_readingArguments : (arguments : List Expr) →
    BarePhrase.NamedGiven P (readingArguments arguments) → ∀ e ∈ arguments, e.Named P
  | [], _ => nofun
  | e :: rest, h =>
    List.forall_mem_cons.2 ⟨named_of_reading e h.1, named_of_readingArguments rest h.2⟩

end

/-- The tokens of a source say what its formula reads like. -/
theorem exists_says_of_parse {limits : Limits} {source : String}
    (h : parse limits source = .ok e) :
    ∃ tokens, Lexer.tokenize source.toList = .ok tokens ∧
      Grammar.Says (tokens.map PlacedToken.token) e.reading := by
  rw [parse] at h
  dsimp only at h
  split at h
  · cases h
  obtain ⟨tokens, htokens, h⟩ := except_bind_eq_ok_iff.1 h
  obtain ⟨phrase, hphrase, h⟩ := except_bind_eq_ok_iff.1 h
  obtain ⟨e', he, h⟩ := except_bind_eq_ok_iff.1 h
  split at h
  · cases h
  cases h
  refine ⟨tokens, htokens, ?_⟩
  rw [← phrase.reading_of_check e he]
  exact Parser.says_of_parse (Lexer.complete_of_tokenize htokens) hphrase

theorem derives_of_parse {limits : Limits} {source : String} (h : parse limits source = .ok e) :
    ∃ ts, Grammar.Derives .expression ts e.reading ∧ ∀ t ∈ ts, Lexer.Lexed t := by
  obtain ⟨tokens, htokens, ts, hts, hderives⟩ := exists_says_of_parse h
  refine ⟨ts, hderives, fun t ht => ?_⟩
  obtain ⟨us, hus, hcut⟩ := Lexer.exists_of_tokenize htokens
  obtain ⟨rfl, -⟩ := List.append_inj' (hts.symm.trans hus) rfl
  obtain ⟨_, _, hcut⟩ := hcut t ht
  exact Lexer.lexed_of_token? hcut

theorem words_of_parse {limits : Limits} {source : String} (h : parse limits source = .ok e) :
    e.Named Lexer.IsWord := by
  obtain ⟨ts, hderives, hlexed⟩ := derives_of_parse h
  exact named_of_reading e (hderives.named fun s hs => hlexed _ hs)

/-- No name of a parsed formula holds a point. -/
theorem plain_of_parse {limits : Limits} {source : String} (h : parse limits source = .ok e) :
    e.Named IsPlain :=
  (words_of_parse h).mono fun _ => Lexer.IsWord.isPlain

end Expr

end Appraisal
