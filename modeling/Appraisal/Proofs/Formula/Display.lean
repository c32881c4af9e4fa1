import Appraisal.Proofs.Formula.Cutting

/-!
# The text of a formula word by word

The text of a formula is put together from the words of its reading. Whatever is kept by a blank, a
word and a constant in front of a text (`Lexer.Carries`) is so kept by the text of a formula
(`Expr.carries_text`), by induction on the formula. What follows a part of it is a character that
ends the part (`Lexer.Breaks`, `Lexer.EndsName`).
-/

namespace Appraisal

open Lexer

/-! ### Constants -/

/-- A constant as a source can hold it. -/
def Value.IsSource : Value → Prop
  | .int i => 0 ≤ i.toInt
  | .float v => Number.Unsigned v.toModel.unpack
  | .list _ => False
  | _ => True

/-- The text of the constant is a source of it: a float has to be finite, and a text has to be one
that quotes leave as it is. -/
def Value.ReadsBack : Value → Prop
  | .float v => v.isFinite = true
  | .string s => Verbatim s.toList
  | _ => True

instance (v : Value) : Decidable v.ReadsBack :=
  match v with
  | .float v => inferInstanceAs (Decidable (v.isFinite = true))
  | .string s => inferInstanceAs (Decidable (Verbatim s.toList))
  | .null | .bool _ | .int _ | .list _ => isTrue trivial

/-! ### Texts from their ends -/

namespace Lexer

/-- What is told of tokens and a text, from the end of the text on: `P ts cs` is kept by a blank in
front, by a word in front that holds no constant, and by the text of a constant of the kind `G`. -/
structure Carries (G : Value → Prop) (P : List Token → List Char → Prop) : Prop where
  source : ∀ {v}, G v → v.IsSource
  blank : ∀ {ts cs}, P ts cs → P ts (' ' :: cs)
  word : ∀ {t ts cs rest}, Cuts cs t rest → t.isConstant = false → P ts rest → P (t :: ts) cs
  literal : ∀ {v ts rest}, G v → Breaks rest → P ts rest →
    P (v.words ++ ts) ((Expr.literalText v).toList ++ rest)

end Lexer

namespace Expr

variable {G : Value → Prop} {P : List Token → List Char → Prop} {e : Expr}

/-- A formula in the sandbox whose names are words and whose constants are of the kind `G`. -/
structure Legible (G : Value → Prop) (e : Expr) : Prop where
  words : e.Named IsWord
  sandboxed : e.Sandboxed
  literals : ∀ v ∈ e.literals, G v

theorem Legible.child {t : Expr} (h : e.Legible G) (ht : t ∈ e.children) : t.Legible G :=
  ⟨h.words.child ht, h.sandboxed.child ht,
    fun v hv => h.literals v (literals_subset_of_child ht hv)⟩

theorem Legible.mono {F : Value → Prop} (h : e.Legible F) (hFG : ∀ {v}, F v → G v) :
    e.Legible G :=
  ⟨h.words, h.sandboxed, fun v hv => hFG (h.literals v hv)⟩

/-- A formula that came from a source is legible. -/
theorem legible_of_parse {limits : Limits} {source : String} (h : parse limits source = .ok e) :
    e.Legible Value.IsSource := by
  have hreads := reads_parse limits source
  rw [h] at hreads
  have hsandboxed : e.Sandboxed := hreads.1
  refine ⟨words_of_parse h, hsandboxed, fun v hv => ?_⟩
  obtain ⟨ts, hderives, hlexed⟩ := derives_of_parse h
  have hword {t : Token} (hwords : v.words = [t]) (ht : t.isConstant = true) : Lexed t :=
    hlexed t (List.mem_filter.1 (mem_filter_isConstant hderives hv hwords ht)).1
  cases v with
  | int i => exact hword rfl rfl
  | float v => exact hword rfl rfl
  | list vs => exact hsandboxed _ (mem_literals.1 hv) vs rfl
  | null | bool | string => trivial

theorem Legible.literal {v : Value} (h : (Expr.literal v).Legible G) : G v :=
  h.literals v (mem_literals.2 (mem_subtrees_self _))

/-- A name and its attributes are read one by one. -/
theorem carries_path (h : Carries G P) : (e : Expr) → e.path?.isSome = true → e.Named IsWord →
    ∀ {ts rest}, EndsName rest → P ts rest → P (e.reading.words ++ ts) (e.text.toList ++ rest)
  | .variable name, _, hname, ts, rest, hends, hrest => by
    exact h.word (cuts_name ((named_iff.1 hname).1 name rfl) hends) rfl hrest
  | .member object name, hpath, hname, ts, rest, hends, hrest => by
    have hword : IsWord name := (named_iff.1 hname).1 name rfl
    have hobject : object.path?.isSome = true := by simpa [path?] using hpath
    obtain ⟨c, more, hlist, hopens, -⟩ := id hword
    have hattribute : P (.dot :: .name name :: ts) ('.' :: (name.toList ++ rest)) := by
      have hdot : Cuts ('.' :: (name.toList ++ rest)) .dot (name.toList ++ rest) := by
        rw [hlist]
        exact cuts_dot hopens _
      exact h.word hdot rfl (h.word (cuts_name hword hends) rfl hrest)
    have hpoint : EndsName ('.' :: (name.toList ++ rest)) :=
      endsName_ascii _ (by decide) (by decide) (by decide)
    have ih := carries_path h object hobject (hname.child (by simp [children])) hpoint hattribute
    simpa [reading, BarePhrase.words, text] using ih

theorem exists_cons_of_digits {digits : List Char} (h : ∀ c ∈ digits, c.isDigit = true)
    (hne : digits ≠ []) (rest : List Char) : ∃ c cs, digits ++ rest = c :: cs ∧ c ≠ '=' := by
  obtain ⟨c, more, rfl⟩ := List.exists_cons_of_ne_nil hne
  refine ⟨c, more ++ rest, rfl, ?_⟩
  rintro rfl
  cases h '=' List.mem_cons_self

theorem exists_cons_literalText {v : Value} (hv : v.IsSource) :
    ∃ c cs, (literalText v).toList = c :: cs ∧ c ≠ '=' := by
  cases v with
  | null => exact ⟨'N', _, rfl, by decide⟩
  | bool b => cases b <;> exact ⟨_, _, rfl, by decide⟩
  | int i =>
    have hdecimal : (literalText (.int i)).toList = Nat.toDigits 10 i.toInt.natAbs ++ [] := by
      rw [List.append_nil]
      exact toList_decimal hv
    rw [hdecimal]
    exact exists_cons_of_digits (Number.isDigit_toDigits _) Nat.toDigits_ne_nil []
  | float v =>
    cases hfinite : v.isFinite with
    | true =>
      obtain ⟨whole, fraction, htext, hne, hdigits, -⟩ := Number.spells_fixedPoint hv hfinite
      obtain ⟨c, cs, hlist, hc⟩ := exists_cons_of_digits
        (fun c hc => hdigits c (List.mem_append_left _ hc)) hne ('.' :: fraction)
      exact ⟨c, cs, htext.trans hlist, hc⟩
    | false =>
      refine ⟨'i', ['n', 'f'], ?_, by decide⟩
      rw [literalText, Number.fixedPoint_of_not_finite hv hfinite]
      rfl
  | string s => exact ⟨'"', _, by simp [literalText, Value.text]; rfl, by decide⟩
  | list => exact hv.elim

/-- The text of a formula does not begin with the rest of an assignment. -/
theorem exists_cons_text : (e : Expr) → e.Legible Value.IsSource →
    ∃ c cs, e.text.toList = c :: cs ∧ c ≠ '='
  | .literal _, h => exists_cons_literalText h.literal
  | .variable name, h => by
    obtain ⟨c, more, hlist, hopens, -⟩ := (named_iff.1 h.words).1 name rfl
    exact ⟨c, more, hlist, ne_assign_of_opensName hopens⟩
  | .member object name, h => by
    obtain ⟨c, cs, hlist, hc⟩ := exists_cons_text object (h.child (by simp [children]))
    exact ⟨c, _, by simp [text, hlist]; rfl, hc⟩
  | .subscript object index, h => by
    obtain ⟨c, cs, hlist, hc⟩ := exists_cons_text object (h.child (by simp [children]))
    exact ⟨c, _, by simp [text, hlist]; rfl, hc⟩
  | .call function arguments, h => by
    obtain ⟨f, rfl, -⟩ := (sandboxed_iff.1 h.sandboxed).1
    obtain ⟨c, more, hlist, hopens, -⟩ := isWord_builtin f
    exact ⟨c, _, by simp [text, hlist]; rfl, ne_assign_of_opensName hopens⟩
  | .list items, _ => ⟨'[', _, by simp [text]; rfl, by decide⟩
  | .tuple [], _ | .tuple [_], _ | .tuple (_ :: _ :: _), _ | .arithmetic .., _ | .unary .., _
  | .comparison .., _ | .logical .., _ | .conditional .., _ =>
    ⟨'(', _, by simp [text]; rfl, by decide⟩

/-! ### Texts of formulas -/

theorem breaks_textLinks (links : List (Comparison × Expr)) (rest : List Char) :
    Breaks ((textLinks links).toList ++ ')' :: rest) := by
  cases links with
  | nil => exact breaks_cons (by decide) rest
  | cons link more =>
    have hfirst : (textLinks (link :: more)).toList ++ ')' :: rest =
        ' ' :: (link.1.symbol.toList ++ ' ' :: (link.2.text.toList ++ ((textLinks more).toList ++
          ')' :: rest))) := by
      simp [textLinks]
    rw [hfirst]
    exact breaks_cons (by decide) _

mutual

/-- The text of a formula carries the words of its reading. -/
theorem carries_text (hP : Carries G P) : (e : Expr) → e.Legible G → ∀ {ts rest}, Breaks rest →
    P ts rest → P (e.reading.words ++ ts) (e.text.toList ++ rest)
  | .literal v, h, ts, rest, hbreaks, hrest => hP.literal h.literal hbreaks hrest
  | .variable name, h, ts, rest, hbreaks, hrest =>
    carries_path hP _ rfl h.words hbreaks.endsName hrest
  | .member object name, h, ts, rest, hbreaks, hrest =>
    carries_path hP _ (sandboxed_iff.1 h.sandboxed).1.2 h.words hbreaks.endsName hrest
  | .arithmetic op left right, h, ts, rest, hbreaks, hrest => by
    have hclose := hP.word (cuts_closeParen rest) rfl hrest
    have hright := carries_text hP right (h.child (by simp [children])) (breaks_cons (by decide) _)
      hclose
    have hop := hP.word (cuts_arithmetic op _) (Grammar.isConstant_arithmeticOp op)
      (hP.blank hright)
    have hleft := carries_text hP left (h.child (by simp [children])) (breaks_cons (by decide) _)
      (hP.blank hop)
    have hopen := hP.word (cuts_openParen _) rfl hleft
    simpa [reading, BarePhrase.words, text] using hopen
  | .unary op operand, h, ts, rest, hbreaks, hrest => by
    have hclose := hP.word (cuts_closeParen rest) rfl hrest
    have hoperand := carries_text hP operand (h.child (by simp [children]))
      (breaks_cons (by decide) _) hclose
    by_cases hop : op = .not
    · subst hop
      have hnot := hP.word (cuts_word (s := "not") (by decide) (by decide) _) rfl
        (hP.blank hoperand)
      have hopen := hP.word (cuts_openParen _) rfl hnot
      simpa [reading, BarePhrase.words, text, signText, UnaryOp.token] using hopen
    · obtain ⟨c, cs, hlist, hc⟩ := exists_cons_text operand
        ((h.child (by simp [children])).mono hP.source)
      rw [hlist, List.cons_append] at hoperand
      have hsign := hP.word (cuts_sign hop hc _) (Grammar.isConstant_unaryOp op) hoperand
      have hopen := hP.word (cuts_openParen _) rfl hsign
      have htext : signText op = op.symbol := by cases op <;> first | rfl | exact absurd rfl hop
      simpa [reading, BarePhrase.words, text, htext, hlist] using hopen
  | .comparison first links, h, ts, rest, hbreaks, hrest => by
    have hclose := hP.word (cuts_closeParen rest) rfl hrest
    have hlinks := carries_textLinks hP links
      (fun link hlink => h.child (List.mem_cons_of_mem _ (List.mem_map_of_mem hlink))) hclose
    have hfirst := carries_text hP first (h.child (by simp [children])) (breaks_textLinks links _)
      hlinks
    have hopen := hP.word (cuts_openParen _) rfl hfirst
    simpa [reading, BarePhrase.words, text] using hopen
  | .logical op left right, h, ts, rest, hbreaks, hrest => by
    have hclose := hP.word (cuts_closeParen rest) rfl hrest
    have hright := carries_text hP right (h.child (by simp [children])) (breaks_cons (by decide) _)
      hclose
    have hop := hP.word (cuts_word (s := op.word) (by cases op <;> decide)
      (by cases op <;> decide) _) rfl (hP.blank hright)
    have hleft := carries_text hP left (h.child (by simp [children])) (breaks_cons (by decide) _)
      (hP.blank hop)
    have hopen := hP.word (cuts_openParen _) rfl hleft
    simpa [reading, BarePhrase.words, text] using hopen
  | .call function arguments, h, ts, rest, hbreaks, hrest => by
    obtain ⟨f, rfl, -⟩ := (sandboxed_iff.1 h.sandboxed).1
    have hclose := hP.word (cuts_closeParen rest) rfl hrest
    have harguments := carries_textAll hP arguments (fun e he => h.child he)
      (breaks_cons (by decide) _) hclose
    have hopen := hP.word (cuts_openParen _) rfl harguments
    have hname := hP.word (cuts_name (isWord_builtin f)
      (endsName_ascii _ (by decide) (by decide) (by decide))) rfl hopen
    simpa [reading, BarePhrase.words, text, wordsGiven_readingArguments] using hname
  | .conditional test yes no, h, ts, rest, hbreaks, hrest => by
    have hclose := hP.word (cuts_closeParen rest) rfl hrest
    have hno := carries_text hP no (h.child (by simp [children])) (breaks_cons (by decide) _)
      hclose
    have helse := hP.word (cuts_word (s := "else") (by decide) (by decide) _) rfl (hP.blank hno)
    have htest := carries_text hP test (h.child (by simp [children])) (breaks_cons (by decide) _)
      (hP.blank helse)
    have hif := hP.word (cuts_word (s := "if") (by decide) (by decide) _) rfl (hP.blank htest)
    have hyes := carries_text hP yes (h.child (by simp [children])) (breaks_cons (by decide) _)
      (hP.blank hif)
    have hopen := hP.word (cuts_openParen _) rfl hyes
    simpa [reading, BarePhrase.words, text] using hopen
  | .list items, h, ts, rest, hbreaks, hrest => by
    have hclose := hP.word (cuts_closeBracket rest) rfl hrest
    have hitems := carries_textAll hP items (fun e he => h.child he) (breaks_cons (by decide) _)
      hclose
    have hopen := hP.word (cuts_openBracket _) rfl hitems
    simpa [reading, BarePhrase.words, text] using hopen
  | .tuple items, h, ts, rest, hbreaks, hrest => by
    have hclose := hP.word (cuts_closeParen rest) rfl hrest
    match items with
    | [item] =>
      have hcomma := hP.word (cuts_comma _) rfl hclose
      have hitem := carries_text hP item (h.child (by simp [children])) (breaks_cons (by decide) _)
        hcomma
      have hopen := hP.word (cuts_openParen _) rfl hitem
      simpa [reading, readingAll, BarePhrase.words, BarePhrase.wordsAll, BarePhrase.separated,
        BarePhrase.tupleMark, text] using hopen
    | [] =>
      have hopen := hP.word (cuts_openParen _) rfl hclose
      simpa [reading, readingAll, BarePhrase.words, BarePhrase.wordsAll, BarePhrase.separated,
        BarePhrase.tupleMark, text, textAll] using hopen
    | item :: item' :: more =>
      have hitems := carries_textAll hP (item :: item' :: more) (fun e he => h.child he)
        (breaks_cons (by decide) _) hclose
      have hopen := hP.word (cuts_openParen _) rfl hitems
      simpa [reading, readingAll, BarePhrase.words, BarePhrase.tupleMark, text] using hopen
  | .subscript object index, h, ts, rest, hbreaks, hrest => by
    have hclose := hP.word (cuts_closeBracket rest) rfl hrest
    have hindex := carries_text hP index (h.child (by simp [children])) (breaks_cons (by decide) _)
      hclose
    have hopen := hP.word (cuts_openBracket _) rfl hindex
    have hobject := carries_text hP object (h.child (by simp [children]))
      (breaks_cons (by decide) _) hopen
    simpa [reading, BarePhrase.words, text] using hobject

theorem carries_textAll (hP : Carries G P) : (items : List Expr) → (∀ e ∈ items, e.Legible G) →
    ∀ {ts rest}, Breaks rest → P ts rest →
      P (BarePhrase.separated (BarePhrase.wordsAll (readingAll items)) ++ ts)
        ((textAll items).toList ++ rest)
  | [], _, ts, rest, hbreaks, hrest => hrest
  | [e], h, ts, rest, hbreaks, hrest =>
    carries_text hP e (h e List.mem_cons_self) hbreaks hrest
  | e :: e' :: more, h, ts, rest, hbreaks, hrest => by
    obtain ⟨he, hmore⟩ := List.forall_mem_cons.1 h
    have hitems := carries_textAll hP (e' :: more) hmore hbreaks hrest
    have hcomma := hP.word (cuts_comma _) rfl (hP.blank hitems)
    have hfirst := carries_text hP e he (breaks_cons (by decide) _) hcomma
    simpa [readingAll, BarePhrase.wordsAll, BarePhrase.separated, textAll] using hfirst

theorem carries_textLinks (hP : Carries G P) : (links : List (Comparison × Expr)) →
    (∀ link ∈ links, link.2.Legible G) → ∀ {ts rest}, P ts (')' :: rest) →
      P (BarePhrase.wordsLinks (readingLinks links) ++ ts) ((textLinks links).toList ++ ')' :: rest)
  | [], _, ts, rest, hrest => hrest
  | (op, e) :: more, h, ts, rest, hrest => by
    obtain ⟨he, hmore⟩ := List.forall_mem_cons.1 h
    have hlinks := carries_textLinks hP more hmore hrest
    have hoperand := carries_text hP e he (breaks_textLinks more rest) hlinks
    have hop := hP.word (cuts_comparison op _) rfl (hP.blank hoperand)
    simpa [readingLinks, BarePhrase.wordsLinks, textLinks] using hP.blank hop

end

end Expr

end Appraisal
