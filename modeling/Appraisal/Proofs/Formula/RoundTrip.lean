import Appraisal.Proofs.Formula.Display

/-!
# Formulas from their own texts

The text of a formula that came from a source is a source of the formula just where every constant
in it reads back (`Value.ReadsBack`, `Expr.parse_text`).

* If they all do, then the text is cut into the words of the formula (`Lexer.CutsInto`), which the
  parser reads as the formula.
* A text gives its constants back up to the first text in quotes that the quotes change
  (`Lexer.Recovers`, `Lexer.RecoversFrom`). If that is all of them, then they all read back
  (`Lexer.Recovers.readsBack`).
-/

namespace Appraisal

open Lexer

/-! ### Constants cut from their texts -/

namespace Lexer

variable {t : Token} {ts : List Token} {cs rest : List Char}

theorem toList_quoted (s : String) (rest : List Char) :
    (Expr.literalText (.string s)).toList ++ rest = '"' :: (s.toList ++ '"' :: rest) := by
  simp [Expr.literalText, Value.text]

/-- A constant that reads back is cut from its text as its one word. -/
theorem cuts_literal {v : Value} (hv : v.IsSource) (hback : v.ReadsBack) (hrest : Breaks rest) :
    ∃ t, v.words = [t] ∧ Cuts ((Expr.literalText v).toList ++ rest) t rest := by
  cases v with
  | null => exact ⟨_, rfl, cuts_name (isWord_of_isAlpha (by decide) (by decide)) hrest.endsName⟩
  | bool b =>
    cases b <;>
      exact ⟨_, rfl, cuts_name (isWord_of_isAlpha (by decide) (by decide)) hrest.endsName⟩
  | int i => exact ⟨_, rfl, cuts_int hv hrest⟩
  | float v => exact ⟨_, rfl, cuts_float hv hback hrest⟩
  | string s =>
    refine ⟨_, rfl, ?_⟩
    rw [toList_quoted]
    refine .mk_cons rfl (by decide) ?_
    rw [token?_quote, quotedBody_of_verbatim _ hback, Option.map_some, String.ofList_toList]
  | list => exact hv.elim

/-! ### Texts that are cut into their words -/

/-- The text is cut into the tokens, wherever it stands. -/
def CutsInto (ts : List Token) (cs : List Char) : Prop :=
  ∀ place, ∃ tokens, tokensFrom place cs = .ok tokens ∧
    tokens.map PlacedToken.token = ts ++ [.finish]

theorem cutsInto_nil : CutsInto [] [] :=
  fun place => ⟨_, tokensFrom_nil place, rfl⟩

theorem Cuts.cutsInto (h : Cuts cs t rest) (hrest : CutsInto ts rest) : CutsInto (t :: ts) cs := by
  intro place
  obtain ⟨tokens, htokens, hts⟩ := hrest (place + passed cs rest)
  refine ⟨⟨t, place⟩ :: tokens, ?_, ?_⟩
  · rw [h.tokensFrom_eq place, htokens]
    rfl
  · rw [List.map_cons, hts, List.cons_append]

/-- Texts whose constants read back are cut into their words. -/
theorem carries_cutsInto : Carries (fun v => v.IsSource ∧ v.ReadsBack) CutsInto where
  source h := h.1
  blank h place := by
    rw [tokensFrom_blank]
    exact h (place + 1)
  word hcuts _ hrest := hcuts.cutsInto hrest
  literal hv hbreaks hrest := by
    obtain ⟨t, hwords, hcuts⟩ := cuts_literal hv.1 hv.2 hbreaks
    rw [hwords]
    exact hcuts.cutsInto hrest

/-! ### Constants that come back -/

/-- What may come back of constants in a text. An infinite float is lost, and behind a text in
quotes that comes back as another one everything may follow. -/
inductive Recovers : List Token → List Token → Prop
  | nil : Recovers [] []
  | same {v : Value} {t : Token} {ts us : List Token} (hwords : v.words = [t])
    (hback : v.ReadsBack) (h : Recovers ts us) : Recovers (t :: ts) (t :: us)
  | infinite {v : Float} {ts us : List Token} (hv : v.isFinite = false) (h : Recovers ts us) :
    Recovers (.float v :: ts) us
  | another {s s' : String} {ts us : List Token} (hs : s ≠ s') :
    Recovers (.string s :: ts) (.string s' :: us)

/-- No infinite float comes back. -/
theorem not_recovers_infinite {v : Float} (hv : v.isFinite = false) {us : List Token} :
    ¬ Recovers ts (.float v :: us) := by
  intro h
  generalize hus : Token.float v :: us = tokens at h
  induction h with
  | nil | another => cases hus
  | @same w _ _ _ hwords hback =>
    cases hus
    cases w <;> cases hwords
    exact absurd hback (by simp [Value.ReadsBack, hv])
  | infinite _ _ ih => exact ih hus

/-- If all constants come back, then they all read back. -/
theorem Recovers.readsBack (h : Recovers ts ts) :
    ∀ t ∈ ts, ∃ v : Value, v.words = [t] ∧ v.ReadsBack := by
  induction ts with
  | nil => exact nofun
  | cons t ts ih =>
    cases h with
    | same hwords hback h => exact List.forall_mem_cons.2 ⟨⟨_, hwords, hback⟩, ih h⟩
    | infinite hv h => exact absurd h (not_recovers_infinite hv)
    | another hs => exact absurd rfl hs

/-- The constants among the tokens come back from the text, as far as they do, wherever it
stands. -/
def RecoversFrom (ts : List Token) (cs : List Char) : Prop :=
  ∀ place tokens, tokensFrom place cs = .ok tokens →
    Recovers (ts.filter Token.isConstant)
      ((tokens.map PlacedToken.token).filter Token.isConstant)

theorem recoversFrom_nil : RecoversFrom [] [] := by
  intro place tokens htokens
  cases (tokensFrom_nil place).symm.trans htokens
  exact .nil

/-- A word that is no constant changes nothing. -/
theorem Cuts.recoversFrom (h : Cuts cs t rest) (ht : t.isConstant = false)
    (hrest : RecoversFrom ts rest) : RecoversFrom ts cs := by
  intro place tokens htokens
  obtain ⟨more, hmore, htokens⟩ := h.exists_of_tokensFrom htokens
  rw [htokens, List.filter_cons_of_neg (by simp [ht])]
  exact hrest _ more hmore

theorem recoversFrom_of_readsBack {v : Value} (hv : v.IsSource) (hback : v.ReadsBack)
    (hbreaks : Breaks rest) (hrest : RecoversFrom ts rest) :
    RecoversFrom (v.words ++ ts) ((Expr.literalText v).toList ++ rest) := by
  obtain ⟨t, hwords, hcuts⟩ := cuts_literal hv hback hbreaks
  intro place tokens htokens
  obtain ⟨more, hmore, htokens⟩ := hcuts.exists_of_tokensFrom htokens
  have ih := hrest _ more hmore
  rw [hwords, htokens, List.singleton_append]
  cases ht : t.isConstant with
  | true =>
    rw [List.filter_cons_of_pos ht, List.filter_cons_of_pos ht]
    exact .same hwords hback ih
  | false =>
    rw [List.filter_cons_of_neg (by simp [ht]), List.filter_cons_of_neg (by simp [ht])]
    exact ih

/-- The text of an infinite float is a name. -/
theorem recoversFrom_infinite {v : Float} (hv : Number.Unsigned v.toModel.unpack)
    (hinfinite : v.isFinite = false) (hbreaks : Breaks rest) (hrest : RecoversFrom ts rest) :
    RecoversFrom (.float v :: ts) ((Expr.literalText (.float v)).toList ++ rest) := by
  have htext : (Expr.literalText (.float v)).toList = "inf".toList := by
    rw [Expr.literalText, Number.fixedPoint_of_not_finite hv hinfinite]
  have hinf : IsWord "inf" := isWord_of_isAlpha (by decide) (by decide)
  intro place tokens htokens
  rw [htext] at htokens
  exact .infinite hinfinite
    ((cuts_name hinf hbreaks.endsName).recoversFrom rfl hrest place tokens htokens)

/-- A text that quotes change comes back as another one, if as any. -/
theorem recoversFrom_quoted {s : String} (hs : ¬ Verbatim s.toList) :
    RecoversFrom (.string s :: ts) ((Expr.literalText (.string s)).toList ++ rest) := by
  intro place tokens htokens
  rw [toList_quoted] at htokens
  obtain ⟨t, rest', hcuts⟩ := exists_cuts rfl (by decide) htokens
  obtain ⟨more, -, htokens⟩ := hcuts.exists_of_tokensFrom htokens
  obtain ⟨⟨body, rest''⟩, hbody, ht⟩ :=
    Option.map_eq_some_iff.1 ((token?_quote _).symm.trans hcuts.token)
  cases ht
  have hother : s ≠ String.ofList body := by
    rintro rfl
    rw [String.toList_ofList] at hbody hs
    exact hs (verbatim_of_quotedBody hbody)
  rw [htokens]
  exact .another hother

/-- What comes back of the constants of a text. -/
theorem carries_recoversFrom : Carries Value.IsSource RecoversFrom where
  source h := h
  blank h place tokens htokens := h (place + 1) tokens (tokensFrom_blank place _ ▸ htokens)
  word hcuts ht hrest := by
    intro place tokens htokens
    rw [List.filter_cons_of_neg (by simp [ht])]
    exact hcuts.recoversFrom ht hrest place tokens htokens
  literal := by
    intro v ts rest hv hbreaks hrest
    by_cases hback : v.ReadsBack
    · exact recoversFrom_of_readsBack hv hback hbreaks hrest
    cases v with
    | float v => exact recoversFrom_infinite hv (Bool.eq_false_iff.2 hback) hbreaks hrest
    | string s => exact recoversFrom_quoted hback
    | _ => exact absurd trivial hback

end Lexer

/-! ### Formulas -/

namespace Expr

variable {limits : Limits} {source : String} {e : Expr}

/-- The text of a formula whose constants read back is a source of the formula. -/
theorem exists_limits_of_readsBack (hlegible : e.Legible fun v => v.IsSource ∧ v.ReadsBack)
    (hreading : Grammar.Derives .expression e.reading.words e.reading) :
    ∃ least : Limits, ∀ larger : Limits, least.maxLength ≤ larger.maxLength →
      least.maxDepth ≤ larger.maxDepth → parse larger e.text = .ok e := by
  have hcut : CutsInto e.reading.words e.text.toList := by
    simpa using carries_text carries_cutsInto e hlegible breaks_nil cutsInto_nil
  obtain ⟨tokens, htokens, hwords⟩ := hcut 0
  refine ⟨⟨e.text.toList.length, max tokens.length e.depth⟩, fun larger hlength hdepth => ?_⟩
  obtain ⟨htokensLe, hdepthLe⟩ := Nat.max_le.1 hdepth
  obtain ⟨phrase, hphrase, hphraseReading⟩ :=
    Parser.parse_of_says ⟨_, hwords, hreading⟩ (Nat.le_succ_of_le htokensLe)
  have hcheck := phrase.check_of_reading e hphraseReading hlegible.sandboxed
  rw [parse]
  dsimp only
  rw [if_neg (Nat.not_lt.2 hlength), Lexer.tokenize, htokens]
  simp only [except_ok_bind, hphrase, hcheck]
  rw [if_neg (Nat.not_lt.2 hdepthLe)]
  rfl

/-- A formula that comes from its own text has constants that read back. -/
theorem readsBack_of_parse_text (hlegible : e.Legible Value.IsSource)
    (h : parse limits e.text = .ok e) {v : Value} (hv : v ∈ e.literals) :
    v.ReadsBack := by
  have hrecovers : RecoversFrom e.reading.words e.text.toList := by
    simpa using carries_text carries_recoversFrom e hlegible breaks_nil recoversFrom_nil
  obtain ⟨tokens, htokens, ts, hts, hderives⟩ := exists_says_of_parse h
  have hconstants : (tokens.map PlacedToken.token).filter Token.isConstant =
      e.reading.words.filter Token.isConstant := by
    rw [hts, filter_isConstant_words hderives, List.filter_append]
    exact List.append_nil _
  have hall := (hconstants ▸ hrecovers _ tokens htokens).readsBack
  rw [filter_isConstant_words hderives] at hall
  cases v with
  | float v =>
    obtain ⟨w, hwords, hback⟩ := hall _ (mem_filter_isConstant hderives hv rfl rfl)
    cases w <;> cases hwords
    exact hback
  | string s =>
    obtain ⟨w, hwords, hback⟩ := hall _ (mem_filter_isConstant hderives hv rfl rfl)
    cases w <;> cases hwords
    exact hback
  | _ => trivial

/-- **Which formulas come from their own texts.** If every constant of a formula reads back, then the
text of the formula is a source of it under all limits that are large enough. If one does not, then
the text is not a source of it under any limits. -/
theorem parse_text (h : parse limits source = .ok e) :
    ((∀ v ∈ e.literals, v.ReadsBack) →
      ∃ least : Limits, ∀ larger : Limits, least.maxLength ≤ larger.maxLength →
        least.maxDepth ≤ larger.maxDepth → parse larger e.text = .ok e) ∧
    ∀ larger, parse larger e.text = .ok e → ∀ v ∈ e.literals, v.ReadsBack := by
  have hlegible := legible_of_parse h
  refine ⟨fun hback => ?_, fun larger htext v hv => readsBack_of_parse_text hlegible htext hv⟩
  obtain ⟨ts, hderives, -⟩ := derives_of_parse h
  have hreads : e.Legible fun v => v.IsSource ∧ v.ReadsBack :=
    ⟨hlegible.words, hlegible.sandboxed, fun v hv => ⟨hlegible.literals v hv, hback v hv⟩⟩
  exact exists_limits_of_readsBack hreads hderives.words.expression_of_primary

/-- A formula with a constant of every kind. -/
theorem parse_text_offer :
    ∃ e, parse {} "-x ** 2 < max(cpu.cores, 1.50)[0] <= 3 if not 'a\\d' else (True, None)" = .ok e ∧
      e.text =
        "(((-(x ** 2)) < max(cpu.cores, 1.5)[0] <= 3) if (not \"a\\d\") else (True, None))" ∧
      e.literals.length = 7 ∧
      ∃ least : Limits, ∀ larger : Limits, least.maxLength ≤ larger.maxLength →
        least.maxDepth ≤ larger.maxDepth → parse larger e.text = .ok e := by
  have hruns : (parse {}
      "-x ** 2 < max(cpu.cores, 1.50)[0] <= 3 if not 'a\\d' else (True, None)").toOption.map
        (fun e => (e.text, e.literals.length, decide (∀ v ∈ e.literals, v.ReadsBack))) =
      some ("(((-(x ** 2)) < max(cpu.cores, 1.5)[0] <= 3) if (not \"a\\d\") else (True, None))",
        7, true) := by
    decide +kernel
  obtain ⟨e, he, hruns⟩ := Option.map_eq_some_iff.1 hruns
  obtain ⟨htext, hruns⟩ := Prod.mk.inj hruns
  obtain ⟨hlength, hback⟩ := Prod.mk.inj hruns
  have he := toOption_eq_some_iff.1 he
  exact ⟨e, he, htext, hlength, (parse_text he).1 (of_decide_eq_true hback)⟩

/-- A formula whose text is no source at all, since quotes in a text are not told from those around
it. -/
theorem not_parse_text_of_quote :
    ∃ e, parse {} "'a\"b'" = .ok e ∧ e.text = "\"a\"b\"" ∧
      ∀ larger f, parse larger e.text ≠ .ok f := by
  have hruns : (parse {} "'a\"b'").toOption.map (fun e =>
      (e.text, (Lexer.tokenize e.text.toList).isOk)) = some ("\"a\"b\"", false) := by
    decide +kernel
  obtain ⟨e, he, hruns⟩ := Option.map_eq_some_iff.1 hruns
  obtain ⟨htext, hfails⟩ := Prod.mk.inj hruns
  refine ⟨e, toOption_eq_some_iff.1 he, htext, fun larger f hf => ?_⟩
  obtain ⟨tokens, htokens, -⟩ := exists_says_of_parse hf
  rw [htokens] at hfails
  cases hfails

end Expr

end Appraisal
