import Appraisal.Proofs.Formula.Sandbox
import Appraisal.Proofs.Formula.Spelling

/-!
# Formulas as readings

A formula reads like the phrase that it comes from (`Expr.reading`, `Phrase.reading_of_check`), and
whatever phrase reads like a formula in the sandbox becomes that formula
(`Phrase.check_of_reading`). So it does not matter to a formula how its source was spelled, and the
constants of the formula are those of the source (`Expr.mem_filter_isConstant`).
-/

namespace Appraisal

namespace Expr

mutual

/-- A formula as its text reads. -/
def reading : Expr → BarePhrase
  | .literal v => .literal v
  | .variable name => .name name
  | .member object name => .member object.reading name
  | .arithmetic op left right => .arithmetic op left.reading right.reading
  | .unary op operand => .unary op operand.reading
  | .comparison first links => .comparison first.reading (readingLinks links)
  | .logical op left right => .logical op left.reading right.reading
  | .call function arguments => .call (.name function) (readingArguments arguments)
  | .conditional test yes no => .conditional test.reading yes.reading no.reading
  | .list items => .list (readingAll items)
  | .tuple items => .tuple (readingAll items)
  | .subscript object index => .subscript object.reading index.reading

/-- Several formulas as their texts read. -/
def readingAll : List Expr → List BarePhrase
  | [] => []
  | e :: rest => e.reading :: readingAll rest

/-- The links of a comparison chain as their texts read. -/
def readingLinks : List (Comparison × Expr) → List (Comparison × BarePhrase)
  | [] => []
  | (op, e) :: rest => (op, e.reading) :: readingLinks rest

/-- The arguments of a call as their texts read. -/
def readingArguments : List Expr → List (Given BarePhrase)
  | [] => []
  | e :: rest => .positional e.reading :: readingArguments rest

end

/-! ### Readings spelled out -/

variable {e : Expr}

theorem wordsGiven_readingArguments (es : List Expr) :
    BarePhrase.wordsGiven (readingArguments es) = BarePhrase.wordsAll (readingAll es) := by
  induction es with
  | nil => rfl
  | cons e rest ih =>
    simp [readingArguments, readingAll, BarePhrase.wordsGiven, BarePhrase.wordsAll, ih]

mutual

theorem positional_reading : (e : Expr) → e.reading.Positional
  | .literal _ | .variable _ => trivial
  | .member object _ => positional_reading object
  | .arithmetic _ left right | .logical _ left right =>
    ⟨positional_reading left, positional_reading right⟩
  | .unary _ operand => positional_reading operand
  | .comparison first links => ⟨positional_reading first, positional_readingLinks links⟩
  | .call _ arguments => ⟨trivial, positional_readingArguments arguments⟩
  | .conditional test yes no =>
    ⟨positional_reading test, positional_reading yes, positional_reading no⟩
  | .list items | .tuple items => positional_readingAll items
  | .subscript object index => ⟨positional_reading object, positional_reading index⟩

theorem positional_readingAll : (items : List Expr) →
    BarePhrase.PositionalAll (readingAll items)
  | [] => trivial
  | e :: rest => ⟨positional_reading e, positional_readingAll rest⟩

theorem positional_readingLinks : (links : List (Comparison × Expr)) →
    BarePhrase.PositionalLinks (readingLinks links)
  | [] => trivial
  | (_, e) :: rest => ⟨positional_reading e, positional_readingLinks rest⟩

theorem positional_readingArguments : (arguments : List Expr) →
    BarePhrase.PositionalGiven (readingArguments arguments)
  | [] => trivial
  | e :: rest => ⟨positional_reading e, positional_readingArguments rest⟩

end

theorem words_subset_separated {items : List Expr} (he : e ∈ items) :
    e.reading.words ⊆ BarePhrase.separated (BarePhrase.wordsAll (readingAll items)) := by
  induction items with
  | nil => cases he
  | cons first more ih =>
    intro t ht
    cases more with
    | nil =>
      cases List.mem_singleton.1 he
      exact ht
    | cons second more =>
      rcases List.mem_cons.1 he with rfl | he
      · exact List.mem_append_left _ ht
      · exact List.mem_append_right _ (List.mem_cons_of_mem _ (ih he ht))

theorem words_subset_wordsLinks {links : List (Comparison × Expr)} {link : Comparison × Expr}
    (hlink : link ∈ links) :
    link.2.reading.words ⊆ BarePhrase.wordsLinks (readingLinks links) := by
  induction links with
  | nil => cases hlink
  | cons first more ih =>
    intro t ht
    rcases List.mem_cons.1 hlink with rfl | hlink
    · exact List.mem_cons_of_mem _ (List.mem_append_left _ ht)
    · exact List.mem_cons_of_mem _ (List.mem_append_right _ (ih hlink ht))

/-- The words of a formula hold those of its children. -/
theorem words_subset_of_child {t : Expr} (ht : t ∈ e.children) :
    t.reading.words ⊆ e.reading.words := by
  intro word hword
  cases e with
  | literal | «variable» => cases ht
  | member | unary =>
    cases List.mem_singleton.1 ht
    simp [reading, BarePhrase.words, hword]
  | arithmetic | logical | subscript =>
    simp only [children, List.mem_cons, List.not_mem_nil, or_false] at ht
    rcases ht with rfl | rfl <;> simp [reading, BarePhrase.words, hword]
  | conditional =>
    simp only [children, List.mem_cons, List.not_mem_nil, or_false] at ht
    rcases ht with rfl | rfl | rfl <;> simp [reading, BarePhrase.words, hword]
  | comparison first links =>
    rcases List.mem_cons.1 ht with rfl | ht
    · simp [reading, BarePhrase.words, hword]
    · obtain ⟨link, hlink, rfl⟩ := List.mem_map.1 ht
      have := words_subset_wordsLinks hlink hword
      simp [reading, BarePhrase.words, this]
  | call function arguments =>
    have hargument : t ∈ arguments := ht
    have := words_subset_separated hargument hword
    simp [reading, BarePhrase.words, wordsGiven_readingArguments, this]
  | list items | tuple items =>
    have hitem : t ∈ items := ht
    have := words_subset_separated hitem hword
    simp [reading, BarePhrase.words, this]

/-- The words of a formula hold those of its parts. -/
theorem words_subset_of_subtree (e : Expr) :
    ∀ t ∈ e.subtrees, t.reading.words ⊆ e.reading.words :=
  forall_subtrees.2 ⟨List.Subset.refl _, fun child hchild t ht =>
    List.Subset.trans (words_subset_of_subtree child t ht) (words_subset_of_child hchild)⟩
  termination_by e.depth
  decreasing_by exact depth_lt_of_mem_children hchild

/-- The constants of a formula and those of the tokens that say it are the same. -/
theorem filter_isConstant_words {ts : List Token}
    (h : Grammar.Derives .expression ts e.reading) :
    e.reading.words.filter Token.isConstant = ts.filter Token.isConstant :=
  h.filter_isConstant (positional_reading e)

/-- A constant of a formula is among the tokens that say it. -/
theorem mem_filter_isConstant {ts : List Token} (h : Grammar.Derives .expression ts e.reading)
    {v : Value} (hv : v ∈ e.literals) {t : Token} (hwords : v.words = [t])
    (ht : t.isConstant = true) : t ∈ ts.filter Token.isConstant := by
  have hmem : t ∈ v.words := hwords ▸ List.mem_singleton_self t
  rw [← filter_isConstant_words h]
  exact List.mem_filter.2 ⟨words_subset_of_subtree e _ (mem_literals.1 hv) hmem, ht⟩

end Expr

/-! ### From phrases to formulas -/

namespace Phrase

open Appraisal.Expr

theorem reading_of_callee {position : Nat} {e : Phrase} {f : Builtin}
    (h : e.callee position = .ok f) : e.reading = .name f.name := by
  unfold Phrase.callee at h
  split at h
  · split at h
    · cases h
    · split at h <;> cases h
      next hf => rw [Phrase.reading, Builtin.name_of_ofName? hf]
  · cases h
  · cases h

mutual

/-- A formula reads like the phrase that it comes from. -/
theorem reading_of_check : (e : Phrase) → ∀ f, e.check = .ok f → e.reading = f.reading
  | .literal _ v, f, hf => by
    cases hf
    rfl
  | .name _ s, f, hf => by
    rw [Phrase.check] at hf
    split at hf <;> cases hf
    rfl
  | .member _ object s, f, hf => by
    rw [Phrase.check] at hf
    split at hf
    · cases hf
    obtain ⟨object', hobject, hf⟩ := except_bind_eq_ok_iff.1 hf
    split at hf <;> cases hf
    rw [Phrase.reading, Expr.reading, reading_of_check object object' hobject]
  | .arithmetic _ op left right, f, hf => by
    obtain ⟨left', hleft, hf⟩ := except_bind_eq_ok_iff.1 hf
    obtain ⟨right', hright, hf⟩ := except_bind_eq_ok_iff.1 hf
    cases hf
    rw [Phrase.reading, Expr.reading, reading_of_check left left' hleft,
      reading_of_check right right' hright]
  | .unary _ op operand, f, hf => by
    obtain ⟨operand', hoperand, hf⟩ := except_bind_eq_ok_iff.1 hf
    cases hf
    rw [Phrase.reading, Expr.reading, reading_of_check operand operand' hoperand]
  | .comparison _ first links, f, hf => by
    obtain ⟨first', hfirst, hf⟩ := except_bind_eq_ok_iff.1 hf
    obtain ⟨links', hlinks, hf⟩ := except_bind_eq_ok_iff.1 hf
    cases hf
    rw [Phrase.reading, Expr.reading, reading_of_check first first' hfirst,
      readingLinks_of_check links links' hlinks]
  | .logical _ op left right, f, hf => by
    obtain ⟨left', hleft, hf⟩ := except_bind_eq_ok_iff.1 hf
    obtain ⟨right', hright, hf⟩ := except_bind_eq_ok_iff.1 hf
    cases hf
    rw [Phrase.reading, Expr.reading, reading_of_check left left' hleft,
      reading_of_check right right' hright]
  | .call _ callee arguments, f, hf => by
    obtain ⟨function, hfunction, hf⟩ := except_bind_eq_ok_iff.1 hf
    obtain ⟨arguments', harguments, hf⟩ := except_bind_eq_ok_iff.1 hf
    split at hf <;> cases hf
    rw [Phrase.reading, Expr.reading, reading_of_callee hfunction,
      readingArguments_of_check arguments arguments' harguments]
  | .conditional _ test yes no, f, hf => by
    obtain ⟨test', htest, hf⟩ := except_bind_eq_ok_iff.1 hf
    obtain ⟨yes', hyes, hf⟩ := except_bind_eq_ok_iff.1 hf
    obtain ⟨no', hno, hf⟩ := except_bind_eq_ok_iff.1 hf
    cases hf
    rw [Phrase.reading, Expr.reading, reading_of_check test test' htest,
      reading_of_check yes yes' hyes, reading_of_check no no' hno]
  | .list _ items, f, hf => by
    obtain ⟨items', hitems, hf⟩ := except_bind_eq_ok_iff.1 hf
    cases hf
    rw [Phrase.reading, Expr.reading, readingAll_of_check items items' hitems]
  | .tuple _ items, f, hf => by
    obtain ⟨items', hitems, hf⟩ := except_bind_eq_ok_iff.1 hf
    cases hf
    rw [Phrase.reading, Expr.reading, readingAll_of_check items items' hitems]
  | .subscript _ object index, f, hf => by
    obtain ⟨object', hobject, hf⟩ := except_bind_eq_ok_iff.1 hf
    obtain ⟨index', hindex, hf⟩ := except_bind_eq_ok_iff.1 hf
    cases hf
    rw [Phrase.reading, Expr.reading, reading_of_check object object' hobject,
      reading_of_check index index' hindex]

theorem readingAll_of_check : (items : List Phrase) → ∀ es, checkAll items = .ok es →
    readingAll items = Expr.readingAll es
  | [], es, hes => by
    cases hes
    rfl
  | e :: rest, es, hes => by
    obtain ⟨e', he, hes⟩ := except_bind_eq_ok_iff.1 hes
    obtain ⟨rest', hrest, hes⟩ := except_bind_eq_ok_iff.1 hes
    cases hes
    rw [Phrase.readingAll, Expr.readingAll, reading_of_check e e' he,
      readingAll_of_check rest rest' hrest]

theorem readingLinks_of_check : (links : List (Comparison × Phrase)) → ∀ ls,
    checkLinks links = .ok ls → readingLinks links = Expr.readingLinks ls
  | [], ls, hls => by
    cases hls
    rfl
  | (op, e) :: rest, ls, hls => by
    obtain ⟨e', he, hls⟩ := except_bind_eq_ok_iff.1 hls
    obtain ⟨rest', hrest, hls⟩ := except_bind_eq_ok_iff.1 hls
    cases hls
    rw [Phrase.readingLinks, Expr.readingLinks, reading_of_check e e' he,
      readingLinks_of_check rest rest' hrest]

theorem readingArguments_of_check : (arguments : List (Argument Phrase)) → ∀ es,
    checkArguments arguments = .ok es → readingArguments arguments = Expr.readingArguments es
  | [], es, hes => by
    cases hes
    rfl
  | .positional e :: rest, es, hes => by
    obtain ⟨e', he, hes⟩ := except_bind_eq_ok_iff.1 hes
    obtain ⟨rest', hrest, hes⟩ := except_bind_eq_ok_iff.1 hes
    cases hes
    rw [Phrase.readingArguments, Expr.readingArguments, reading_of_check e e' he,
      readingArguments_of_check rest rest' hrest]
  | .keyword _ _ :: _, _, hes => by cases hes
  | .unpacked _ :: _, _, hes => by cases hes

end

/-! ### From readings to formulas -/

theorem isReserved_of_allowed {name : String} (h : ¬ ['_', '_'] <+: name.toList) :
    ¬ isReserved name = true :=
  Bool.eq_false_iff.1 (isReserved_eq_false_iff.2 h)

theorem callee_of_reading {position : Nat} {e : Phrase} {f : Builtin}
    (h : e.reading = .name f.name) : e.callee position = .ok f := by
  cases e with
  | name _ s =>
    cases h
    have hreserved : ¬ isReserved f.name = true := by cases f <;> decide
    rw [Phrase.callee, if_neg hreserved, Builtin.ofName?_name]
  | _ => cases h

mutual

/-- A phrase that reads like a formula in the sandbox becomes that formula. -/
theorem check_of_reading : (e : Phrase) → ∀ f : Expr, e.reading = f.reading → f.Sandboxed →
    e.check = .ok f
  | .literal _ v, f, h, hf => by
    cases f <;> cases h
    rfl
  | .name _ s, f, h, hf => by
    cases f <;> cases h
    rw [Phrase.check, if_neg (isReserved_of_allowed (sandboxed_iff.1 hf).1.1)]
  | .member _ object s, f, h, hf => by
    cases f with
    | member object' s' =>
      obtain ⟨hobject, rfl⟩ := BarePhrase.member.inj h
      obtain ⟨⟨hs, hpath⟩, hchild⟩ := sandboxed_iff.1 hf
      obtain ⟨path, hpath⟩ : ∃ path, object'.path? = some path := by
        simpa [path?, Option.isSome_iff_exists] using hpath
      rw [Phrase.check, if_neg (isReserved_of_allowed hs),
        check_of_reading object object' hobject (hchild object' (by simp [children])),
        except_ok_bind, hpath]
      rfl
    | _ => cases h
  | .arithmetic _ op left right, f, h, hf => by
    cases f with
    | arithmetic op' left' right' =>
      obtain ⟨rfl, hleft, hright⟩ := BarePhrase.arithmetic.inj h
      rw [Phrase.check, check_of_reading left left' hleft (hf.child (by simp [children])),
        check_of_reading right right' hright (hf.child (by simp [children]))]
      rfl
    | _ => cases h
  | .unary _ op operand, f, h, hf => by
    cases f with
    | unary op' operand' =>
      obtain ⟨rfl, hoperand⟩ := BarePhrase.unary.inj h
      rw [Phrase.check, check_of_reading operand operand' hoperand (hf.child (by simp [children]))]
      rfl
    | _ => cases h
  | .comparison _ first links, f, h, hf => by
    cases f with
    | comparison first' links' =>
      obtain ⟨hfirst, hlinks⟩ := BarePhrase.comparison.inj h
      have hrest (link) (hlink : link ∈ links') : link.2.Sandboxed :=
        hf.child (List.mem_cons_of_mem _ (List.mem_map_of_mem hlink))
      rw [Phrase.check, check_of_reading first first' hfirst (hf.child (by simp [children])),
        checkLinks_of_reading links links' hlinks hrest]
      rfl
    | _ => cases h
  | .logical _ op left right, f, h, hf => by
    cases f with
    | logical op' left' right' =>
      obtain ⟨rfl, hleft, hright⟩ := BarePhrase.logical.inj h
      rw [Phrase.check, check_of_reading left left' hleft (hf.child (by simp [children])),
        check_of_reading right right' hright (hf.child (by simp [children]))]
      rfl
    | _ => cases h
  | .call position callee arguments, f, h, hf => by
    cases f with
    | call function arguments' =>
      obtain ⟨hcallee, harguments⟩ := BarePhrase.call.inj h
      obtain ⟨⟨builtin, rfl, haccepts⟩, hchild⟩ := sandboxed_iff.1 hf
      rw [Phrase.check, callee_of_reading hcallee, except_ok_bind,
        checkArguments_of_reading arguments arguments' harguments hchild, except_ok_bind,
        if_pos haccepts]
      rfl
    | _ => cases h
  | .conditional _ test yes no, f, h, hf => by
    cases f with
    | conditional test' yes' no' =>
      obtain ⟨htest, hyes, hno⟩ := BarePhrase.conditional.inj h
      rw [Phrase.check, check_of_reading test test' htest (hf.child (by simp [children])),
        check_of_reading yes yes' hyes (hf.child (by simp [children])),
        check_of_reading no no' hno (hf.child (by simp [children]))]
      rfl
    | _ => cases h
  | .list _ items, f, h, hf => by
    cases f with
    | list items' =>
      have hitems := BarePhrase.list.inj h
      rw [Phrase.check, checkAll_of_reading items items' hitems fun e he => hf.child he]
      rfl
    | _ => cases h
  | .tuple _ items, f, h, hf => by
    cases f with
    | tuple items' =>
      have hitems := BarePhrase.tuple.inj h
      rw [Phrase.check, checkAll_of_reading items items' hitems fun e he => hf.child he]
      rfl
    | _ => cases h
  | .subscript _ object index, f, h, hf => by
    cases f with
    | subscript object' index' =>
      obtain ⟨hobject, hindex⟩ := BarePhrase.subscript.inj h
      rw [Phrase.check, check_of_reading object object' hobject (hf.child (by simp [children])),
        check_of_reading index index' hindex (hf.child (by simp [children]))]
      rfl
    | _ => cases h

theorem checkAll_of_reading : (items : List Phrase) → ∀ es : List Expr,
    readingAll items = Expr.readingAll es → (∀ e ∈ es, e.Sandboxed) → checkAll items = .ok es
  | [], es, h, hes => by
    cases es <;> cases h
    rfl
  | e :: rest, es, h, hes => by
    cases es with
    | nil => cases h
    | cons f more =>
      obtain ⟨he, hrest⟩ := List.cons.inj h
      obtain ⟨hf, hmore⟩ := List.forall_mem_cons.1 hes
      rw [checkAll, check_of_reading e f he hf, checkAll_of_reading rest more hrest hmore]
      rfl

theorem checkLinks_of_reading : (links : List (Comparison × Phrase)) →
    ∀ ls : List (Comparison × Expr), readingLinks links = Expr.readingLinks ls →
      (∀ link ∈ ls, link.2.Sandboxed) → checkLinks links = .ok ls
  | [], ls, h, hls => by
    cases ls <;> cases h
    rfl
  | (op, e) :: rest, ls, h, hls => by
    cases ls with
    | nil => cases h
    | cons link more =>
      obtain ⟨hlink, hrest⟩ := List.cons.inj h
      obtain ⟨rfl, he⟩ := Prod.mk.inj hlink
      obtain ⟨hf, hmore⟩ := List.forall_mem_cons.1 hls
      rw [checkLinks, check_of_reading e link.2 he hf, checkLinks_of_reading rest more hrest hmore]
      rfl

theorem checkArguments_of_reading : (arguments : List (Argument Phrase)) → ∀ es : List Expr,
    readingArguments arguments = Expr.readingArguments es → (∀ e ∈ es, e.Sandboxed) →
      checkArguments arguments = .ok es
  | [], es, h, hes => by
    cases es <;> cases h
    rfl
  | .positional e :: rest, es, h, hes => by
    cases es with
    | nil => cases h
    | cons f more =>
      obtain ⟨he, hrest⟩ := List.cons.inj h
      obtain ⟨hf, hmore⟩ := List.forall_mem_cons.1 hes
      rw [checkArguments, check_of_reading e f (Given.positional.inj he) hf,
        checkArguments_of_reading rest more hrest hmore]
      rfl
  | .keyword _ _ :: _, es, h, _ => by cases es <;> cases h
  | .unpacked _ :: _, es, h, _ => by cases es <;> cases h

end

end Phrase

end Appraisal
