import Appraisal.Proofs.Formula.Names
import Appraisal.Proofs.Number.FixedPoint

/-!
# Words cut from their texts

The text of a word, in front of a text that the word cannot go on with, is cut back into the word.
Names and numbers go on until a character that they cannot hold (`Lexer.Breaks`); a text in quotes
has to be one that the quotes leave as it is (`Lexer.Verbatim`, `Lexer.quotedBody_of_verbatim`).
-/

namespace Appraisal.Lexer

/-! ### Characters of names -/

theorem opensName_of_ascii {c : Char} (h : c.toNat < 0x80) :
    opensName c = (c.isAlpha || c == '_') := by
  rw [opensName, Text.isAlphabetic_of_ascii h]

theorem continuesName_of_ascii {c : Char} (h : c.toNat < 0x80) :
    continuesName c = (c.isAlphanum || c == '_') := by
  rw [continuesName, Text.isAlphanumeric, Text.isAlphabetic_of_ascii h, Text.isNumeral_of_ascii h,
    Char.isAlphanum]

theorem toNat_of_letter {c : Char} (h : (c.isAlpha || c == '_') = true) :
    65 ≤ c.toNat ∧ c.toNat ≤ 122 := by
  have hcases : (65 ≤ c.toNat ∧ c.toNat ≤ 90 ∨ 97 ≤ c.toNat ∧ c.toNat ≤ 122) ∨ c = '_' := by
    simpa [Char.isAlpha, Char.isUpper, Char.isLower, UInt32.le_iff_toNat_le] using h
  rcases hcases with _ | rfl
  · omega
  · decide

theorem isDigit_of_opensName {c : Char} (h : opensName c = true) : c.isDigit = false := by
  by_contra hdigit
  have hc : 48 ≤ c.toNat ∧ c.toNat ≤ 57 := by
    simpa [Char.isDigit, UInt32.le_iff_toNat_le] using hdigit
  rw [opensName_of_ascii (by omega)] at h
  have := toNat_of_letter h
  omega

/-- The code points of the blanks beyond ASCII. -/
def wideBlanks : List Nat :=
  [0x85, 0xa0, 0x1680, 0x2000, 0x2001, 0x2002, 0x2003, 0x2004, 0x2005, 0x2006, 0x2007, 0x2008,
    0x2009, 0x200a, 0x2028, 0x2029, 0x202f, 0x205f, 0x3000]

theorem wideBlanks_not_alphabetic : Text.alphabeticRanges.toList.all (fun r =>
    wideBlanks.all fun n => !(decide (r.1 ≤ n) && decide (n ≤ r.2))) = true := by
  decide +kernel

/-- No blank opens a name. -/
theorem isBlank_of_opensName {c : Char} (h : opensName c = true) : Text.isBlank c = false := by
  by_contra hblank
  simp only [Text.isBlank, Bool.not_eq_false, Bool.or_eq_true, Bool.and_eq_true, decide_eq_true_eq,
    beq_iff_eq] at hblank
  by_cases hascii : c.toNat < 0x80
  · rw [opensName_of_ascii hascii] at h
    have := toNat_of_letter h
    omega
  · have hmem : c.toNat ∈ wideBlanks := by
      simp only [wideBlanks, List.mem_cons, List.not_mem_nil, or_false]
      omega
    have hunderscore : c ≠ '_' := by
      rintro rfl
      exact hascii (by decide)
    simp only [opensName, Text.isAlphabetic, if_neg hascii, Text.Ranges.contains,
      Bool.or_eq_true, beq_iff_eq, hunderscore, or_false, ← Array.any_toList] at h
    obtain ⟨r, hr, hcovers⟩ := List.any_eq_true.1 h
    have hnone := List.all_eq_true.1 (List.all_eq_true.1 wideBlanks_not_alphabetic r hr) _ hmem
    rw [hcovers] at hnone
    cases hnone

theorem isQuote_of_opensName {c : Char} (h : opensName c = true) : isQuote c = false := by
  by_contra hquote
  simp only [isQuote, Bool.not_eq_false, Bool.or_eq_true, beq_iff_eq] at hquote
  rcases hquote with rfl | rfl <;> cases h.symm.trans (opensName_of_ascii (by decide))

theorem ne_assign_of_opensName {c : Char} (h : opensName c = true) : c ≠ '=' := by
  rintro rfl
  rw [opensName_of_ascii (by decide)] at h
  cases h

/-- Words of letters are names. -/
theorem isWord_of_isAlpha {s : String} (hne : s.toList ≠ [])
    (h : s.toList.all Char.isAlpha = true) : IsWord s := by
  have hascii {c : Char} (hc : c.isAlpha = true) : c.toNat < 0x80 := by
    have := toNat_of_letter (c := c) (by rw [hc, Bool.true_or])
    omega
  rw [List.all_eq_true] at h
  obtain ⟨c, more, hs⟩ := List.exists_cons_of_ne_nil hne
  rw [hs, List.forall_mem_cons] at h
  refine ⟨c, more, hs, ?_, fun d hd => ?_⟩
  · rw [opensName_of_ascii (hascii h.1), h.1, Bool.true_or]
  · rw [continuesName_of_ascii (hascii (h.2 d hd)), Char.isAlphanum, h.2 d hd, Bool.true_or,
      Bool.true_or]

/-! ### Where words end -/

/-- The text begins with a character that stands after a phrase, if with any. -/
def Breaks (cs : List Char) : Prop := ∀ c, cs.head? = some c → c ∈ [' ', ')', ']', ',', '[']

/-- No name goes on with the text. -/
def EndsName (cs : List Char) : Prop :=
  ∀ c, cs.head? = some c → continuesName c = false ∧ isQuote c = false

theorem endsName_cons {c : Char} (cs : List Char) (h : continuesName c = false)
    (hquote : isQuote c = false) : EndsName (c :: cs) := by
  rintro _ ⟨⟩
  exact ⟨h, hquote⟩

theorem breaks_nil : Breaks [] := by
  intro c h
  cases h

theorem breaks_cons {c : Char} (h : c ∈ [' ', ')', ']', ',', '[']) (cs : List Char) :
    Breaks (c :: cs) := by
  rintro _ ⟨⟩
  exact h

theorem endsName_ascii {c : Char} (cs : List Char) (h : c.toNat < 0x80)
    (hc : (c.isAlphanum || c == '_') = false) (hquote : isQuote c = false) : EndsName (c :: cs) :=
  endsName_cons cs ((continuesName_of_ascii h).trans hc) hquote

theorem Breaks.endsName {cs : List Char} (h : Breaks cs) : EndsName cs := by
  intro c hc
  have hc := h c hc
  simp only [List.mem_cons, List.not_mem_nil, or_false] at hc
  rcases hc with rfl | rfl | rfl | rfl | rfl <;>
    exact ⟨continuesName_of_ascii (by decide), by decide⟩

theorem span_append {p : Char → Bool} {cs rest : List Char} (hcs : ∀ c ∈ cs, p c = true)
    (hrest : ∀ c, rest.head? = some c → p c = false) :
    (cs ++ rest).takeWhile p = cs ∧ (cs ++ rest).dropWhile p = rest := by
  rw [List.takeWhile_append_of_pos hcs, List.dropWhile_append_of_pos hcs]
  cases rest with
  | nil => simp
  | cons c rest => simp [hrest c rfl]

/-! ### The next word -/

/-- A word stands at the front of the text, with no blank before it. -/
structure Cuts (cs : List Char) (t : Token) (rest : List Char) : Prop where
  unblank : skipBlanks cs = cs
  token : token? cs = some (t, rest)

theorem skipBlanks_cons {c : Char} (cs : List Char) (hblank : Text.isBlank c = false)
    (hmark : c ≠ '#') : skipBlanks (c :: cs) = c :: cs := by
  rw [skipBlanks.eq_def]
  simp only [hblank, Bool.false_eq_true, if_false, hmark]

theorem Cuts.mk_cons {c : Char} {cs rest : List Char} {t : Token} (hblank : Text.isBlank c = false)
    (hmark : c ≠ '#') (h : token? (c :: cs) = some (t, rest)) : Cuts (c :: cs) t rest :=
  ⟨skipBlanks_cons _ hblank hmark, h⟩

/-- A blank between words moves the place on, and nothing else. -/
theorem tokensFrom_blank (place : Nat) (cs : List Char) :
    tokensFrom place (' ' :: cs) = tokensFrom (place + 1) cs := by
  have hskip : skipBlanks (' ' :: cs) = skipBlanks cs := by
    rw [skipBlanks.eq_def]
    exact if_pos (by decide)
  have hpassed : place + passed (' ' :: cs) (skipBlanks cs) =
      place + 1 + passed cs (skipBlanks cs) := by
    have hle := skipBlanks_length cs
    rw [passed, passed, List.length_cons]
    omega
  rw [tokensFrom_eq, tokensFrom_eq, hskip]
  generalize skipBlanks cs = behind at hpassed ⊢
  cases behind with
  | nil => simp only [hpassed]
  | cons c more => simp only [hpassed]

/-- The word at the front of a text is the first of its tokens. -/
theorem Cuts.tokensFrom_eq {cs rest : List Char} {t : Token} (h : Cuts cs t rest) (place : Nat) :
    tokensFrom place cs = (tokensFrom (place + passed cs rest) rest).map (⟨t, place⟩ :: ·) := by
  obtain ⟨hskip, htoken⟩ := h
  rw [Lexer.tokensFrom_eq, hskip]
  cases cs with
  | nil => cases htoken
  | cons c more => simp only [htoken, passed_self, Nat.add_zero]

theorem tokensFrom_nil (place : Nat) : tokensFrom place [] = .ok [⟨.finish, place⟩] := by
  have hskip : skipBlanks [] = [] := by rw [skipBlanks.eq_def]
  rw [tokensFrom_eq, hskip]
  simp only [passed_self, Nat.add_zero]

theorem Cuts.exists_of_tokensFrom {t : Token} {cs rest : List Char} (h : Cuts cs t rest)
    {place : Nat} {tokens : List PlacedToken} (htokens : tokensFrom place cs = .ok tokens) :
    ∃ more, tokensFrom (place + passed cs rest) rest = .ok more ∧
      tokens.map PlacedToken.token = t :: more.map PlacedToken.token := by
  rw [h.tokensFrom_eq place] at htokens
  obtain ⟨more, hmore, hcons⟩ := except_bind_eq_ok_iff.1 ((map_eq_pure_bind _ _).symm.trans htokens)
  cases hcons
  exact ⟨more, hmore, rfl⟩

/-- A text that is cut into tokens has a word at its front. -/
theorem exists_cuts {c : Char} {cs : List Char} (hblank : Text.isBlank c = false) (hmark : c ≠ '#')
    {place : Nat} {tokens : List PlacedToken} (h : tokensFrom place (c :: cs) = .ok tokens) :
    ∃ t rest, Cuts (c :: cs) t rest := by
  have hskip := skipBlanks_cons cs hblank hmark
  rw [tokensFrom_eq, hskip] at h
  cases htoken : token? (c :: cs) with
  | none =>
    simp only [htoken] at h
    cases h
  | some cut => exact ⟨cut.1, cut.2, hskip, htoken⟩

/-! ### The front of a number -/

theorem number?_of_point {cs more : List Char} (h : cs.dropWhile Char.isDigit = '.' :: more) :
    number? cs =
      if cs.takeWhile Char.isDigit = [] ∧ more.takeWhile Char.isDigit = [] then none
      else some (⟨cs.takeWhile Char.isDigit, some (more.takeWhile Char.isDigit),
        (exponent (more.dropWhile Char.isDigit)).1⟩,
        (exponent (more.dropWhile Char.isDigit)).2) := by
  rw [number?, h]
  rfl

theorem number?_of_no_point {cs : List Char}
    (h : (cs.dropWhile Char.isDigit).head? ≠ some '.') :
    number? cs =
      if cs.takeWhile Char.isDigit = [] then none
      else some (⟨cs.takeWhile Char.isDigit, none, (exponent (cs.dropWhile Char.isDigit)).1⟩,
        (exponent (cs.dropWhile Char.isDigit)).2) := by
  rw [number?]
  dsimp only
  split
  · next heq => exact absurd (congrArg List.head? heq) h
  · rfl

theorem number?_eq_none {c : Char} {rest : List Char} (hdigit : c.isDigit = false)
    (hpoint : c ≠ '.') : number? (c :: rest) = none := by
  have hnot : ¬ c.isDigit = true := by simp [hdigit]
  have hhead : ((c :: rest).dropWhile Char.isDigit).head? ≠ some '.' := by
    rw [List.dropWhile_cons_of_neg hnot]
    simpa using hpoint
  rw [number?_of_no_point hhead]
  exact if_pos (List.takeWhile_cons_of_neg hnot)

/-! ### Names -/

/-- A name is cut off where no name goes on. -/
theorem cuts_name {name : String} {rest : List Char} (h : IsWord name) (hrest : EndsName rest) :
    Cuts (name.toList ++ rest) (.name name) rest := by
  obtain ⟨c, more, hname, hopens, hcontinues⟩ := h
  have hdigit := isDigit_of_opensName hopens
  have hpoint := ne_point_of_opensName hopens
  have hquote := isQuote_of_opensName hopens
  obtain ⟨htake, hdrop⟩ := span_append hcontinues fun c hc => (hrest c hc).1
  have hplain : (rest.head?.any isQuote) = false := by
    cases rest with
    | nil => rfl
    | cons c rest => exact (hrest c rfl).2
  have hnumber : number? (c :: more ++ rest) = none := number?_eq_none hdigit hpoint
  have hquoted : quoted? (c :: more ++ rest) = none := by
    rw [List.cons_append, quoted?, hquote]
    rfl
  have hname? : name? (c :: more ++ rest) = some (.name name, rest) := by
    rw [List.cons_append, name?, if_pos hopens, htake, hdrop]
    dsimp only
    rw [hplain, Bool.and_false, if_neg Bool.false_ne_true, ← hname, String.ofList_toList]
  have hmark : c ≠ '#' := by
    rintro rfl
    rw [opensName_of_ascii (by decide)] at hopens
    cases hopens
  have htoken : token? (c :: more ++ rest) = some (.name name, rest) := by
    rw [token?, hnumber, hquoted, hname?]
    rfl
  rw [hname]
  exact Cuts.mk_cons (isBlank_of_opensName hopens) hmark htoken

/-- A keyword is cut off before a blank. -/
theorem cuts_word {s : String} (hne : s.toList ≠ []) (h : s.toList.all Char.isAlpha = true)
    (rest : List Char) : Cuts (s.toList ++ ' ' :: rest) (.name s) (' ' :: rest) :=
  cuts_name (isWord_of_isAlpha hne h) (endsName_ascii _ (by decide) (by decide) (by decide))

theorem isWord_builtin (f : Builtin) : IsWord f.name := by
  cases f <;> exact isWord_of_isAlpha (by decide) (by decide)

/-! ### Symbols -/

theorem cuts_openParen (rest : List Char) : Cuts ('(' :: rest) .openParen rest :=
  .mk_cons rfl (by decide) rfl

theorem cuts_closeParen (rest : List Char) : Cuts (')' :: rest) .closeParen rest :=
  .mk_cons rfl (by decide) rfl

theorem cuts_openBracket (rest : List Char) : Cuts ('[' :: rest) .openBracket rest :=
  .mk_cons rfl (by decide) rfl

theorem cuts_closeBracket (rest : List Char) : Cuts (']' :: rest) .closeBracket rest :=
  .mk_cons rfl (by decide) rfl

theorem cuts_comma (rest : List Char) : Cuts (',' :: rest) .comma rest :=
  .mk_cons rfl (by decide) rfl

theorem cuts_arithmetic (op : ArithmeticOp) (rest : List Char) :
    Cuts (op.symbol.toList ++ ' ' :: rest) op.token (' ' :: rest) := by
  cases op <;> exact .mk_cons rfl (by decide) rfl

theorem cuts_comparison (op : Comparison) (rest : List Char) :
    Cuts (op.symbol.toList ++ ' ' :: rest) (.comparison op) (' ' :: rest) := by
  cases op <;> exact .mk_cons rfl (by decide) rfl

/-- A point in front of a name does not belong to a number. -/
theorem cuts_dot {c : Char} (h : opensName c = true) (rest : List Char) :
    Cuts ('.' :: c :: rest) .dot (c :: rest) := by
  have hdigit := isDigit_of_opensName h
  have hnumber : number? ('.' :: c :: rest) = none := by
    rw [number?_of_point (List.dropWhile_cons_of_neg (by decide))]
    exact if_pos ⟨rfl, List.takeWhile_cons_of_neg (by simp [hdigit])⟩
  refine .mk_cons rfl (by decide) ?_
  rw [token?, hnumber]
  rfl

/-- A sign is told from an assignment by what follows it. -/
theorem cuts_sign {op : UnaryOp} (h : op ≠ .not) {c : Char} (hc : c ≠ '=') (rest : List Char) :
    Cuts (op.symbol.toList ++ c :: rest) op.token (c :: rest) := by
  have hassign : ¬ '=' = c := Ne.symm hc
  cases op with
  | neg =>
    have hsymbol : symbol? ('-' :: c :: rest) = some (.minus, c :: rest) := by
      simp [symbol?, symbols, Token.text, UpdateOp.symbol, BitwiseOp.symbol, Comparison.symbol,
        Text.dropPrefix?, hassign]
    exact .mk_cons rfl (by decide) hsymbol
  | pos =>
    have hsymbol : symbol? ('+' :: c :: rest) = some (.plus, c :: rest) := by
      simp [symbol?, symbols, Token.text, UpdateOp.symbol, BitwiseOp.symbol, Comparison.symbol,
        Text.dropPrefix?, hassign]
    exact .mk_cons rfl (by decide) hsymbol
  | not => exact absurd rfl h

/-! ### Numbers -/

theorem exponent_of_breaks {rest : List Char} (h : Breaks rest) : exponent rest = (none, rest) := by
  cases rest with
  | nil => rfl
  | cons c rest =>
    have hc := h c rfl
    have hmark : ¬ (c = 'e' ∨ c = 'E') := by
      rintro (rfl | rfl) <;> exact absurd hc (by decide)
    rw [exponent]
    simp [hmark]

theorem Breaks.isDigit_eq_false {rest : List Char} (h : Breaks rest) {c : Char}
    (hc : rest.head? = some c) : c.isDigit = false := by
  have hc := h c hc
  simp only [List.mem_cons, List.not_mem_nil, or_false] at hc
  rcases hc with rfl | rfl | rfl | rfl | rfl <;> rfl

theorem skipBlanks_of_digits {digits : List Char} (h : ∀ c ∈ digits, c.isDigit = true)
    (hne : digits ≠ []) (rest : List Char) : skipBlanks (digits ++ rest) = digits ++ rest := by
  cases digits with
  | nil => exact absurd rfl hne
  | cons c more =>
    have hc : 48 ≤ c.toNat ∧ c.toNat ≤ 57 := by
      simpa [Char.isDigit, UInt32.le_iff_toNat_le] using h c List.mem_cons_self
    refine skipBlanks_cons _ ?_ ?_
    · simp only [Text.isBlank, Bool.or_eq_false_iff, Bool.and_eq_false_iff, decide_eq_false_iff_not,
        beq_eq_false_iff_ne]
      omega
    · rintro rfl
      exact absurd hc.1 (by decide)

theorem toList_decimal {i : Int64} (hi : 0 ≤ i.toInt) :
    (Number.decimal i).toList = Nat.toDigits 10 i.toInt.natAbs := by
  rw [Number.decimal]
  simp [Int.not_lt.2 hi]

/-- Digits are cut off as an integer. -/
theorem cuts_int {i : Int64} (hi : 0 ≤ i.toInt) {rest : List Char} (hrest : Breaks rest) :
    Cuts ((Number.decimal i).toList ++ rest) (.int i) rest := by
  have htext := toList_decimal hi
  obtain ⟨htake, hdrop⟩ := span_append (Number.isDigit_toDigits i.toInt.natAbs)
    fun c hc => hrest.isDigit_eq_false hc
  have hpoint : rest.head? ≠ some '.' := fun hc => absurd (hrest _ hc) (by decide)
  have hnumber : number? ((Number.decimal i).toList ++ rest) =
      some (⟨Nat.toDigits 10 i.toInt.natAbs, none, none⟩, rest) := by
    rw [htext, number?_of_no_point (by rwa [hdrop]), htake, hdrop, exponent_of_breaks hrest,
      if_neg Nat.toDigits_ne_nil]
  have hvalue : Number.int64? (Number.digitsValue (Nat.toDigits 10 i.toInt.natAbs)) = some i := by
    rw [Number.digitsValue_toDigits, Int.natAbs_of_nonneg hi, Number.int64?_toInt]
  refine ⟨?_, ?_⟩
  · rw [htext]
    exact skipBlanks_of_digits (Number.isDigit_toDigits _) Nat.toDigits_ne_nil rest
  · rw [token?, hnumber]
    dsimp only [Numeral.token]
    rw [Option.getD_none, List.append_nil, hvalue]

/-- Digits around a point are cut off as a float. -/
theorem cuts_float {v : Float} (hv : Number.Unsigned v.toModel.unpack)
    (hfinite : v.isFinite = true) {rest : List Char} (hrest : Breaks rest) :
    Cuts ((Number.fixedPoint v).toList ++ rest) (.float v) rest := by
  obtain ⟨whole, fraction, htext, hne, hdigits, hvalue⟩ := Number.spells_fixedPoint hv hfinite
  have hwhole : ∀ c ∈ whole, c.isDigit = true := fun c hc => hdigits c (List.mem_append_left _ hc)
  have hfraction : ∀ c ∈ fraction, c.isDigit = true :=
    fun c hc => hdigits c (List.mem_append_right _ hc)
  have hpoint : ∀ c, ('.' :: (fraction ++ rest)).head? = some c → c.isDigit = false := by
    rintro _ ⟨⟩
    rfl
  obtain ⟨htake, hdrop⟩ := span_append hwhole hpoint
  obtain ⟨htake', hdrop'⟩ := span_append hfraction fun c hc => hrest.isDigit_eq_false hc
  have hnumber : number? ((Number.fixedPoint v).toList ++ rest) =
      some (⟨whole, some fraction, none⟩, rest) := by
    rw [htext, List.append_assoc, List.cons_append, number?_of_point hdrop, htake, htake', hdrop',
      exponent_of_breaks hrest, if_neg (by simp [hne])]
  refine ⟨?_, ?_⟩
  · rw [htext, List.append_assoc]
    exact skipBlanks_of_digits hwhole hne _
  · rw [token?, hnumber]
    dsimp only [Numeral.token]
    rw [Option.getD_some, Option.getD_none, hvalue]

/-! ### Texts in quotes -/

/-- A text that quotes leave as it is: it holds no quote, and a backslash only in front of a
character that it does not change. -/
def Verbatim (cs : List Char) : Prop :=
  '"' ∉ cs ∧ ∀ before after, cs = before ++ '\\' :: after →
    ∃ d more, after = d :: more ∧ unescape d = ['\\', d]

theorem verbatim_nil : Verbatim [] := by
  refine ⟨List.not_mem_nil, fun before after h => ?_⟩
  cases before <;> cases h

theorem verbatim_cons {c : Char} {cs : List Char} : Verbatim (c :: cs) ↔
    c ≠ '"' ∧ (c = '\\' → ∃ d more, cs = d :: more ∧ unescape d = ['\\', d]) ∧ Verbatim cs := by
  constructor
  · rintro ⟨hquote, hescape⟩
    rw [List.mem_cons, not_or] at hquote
    refine ⟨Ne.symm hquote.1, fun hc => hescape [] cs (by rw [hc]; rfl), hquote.2, ?_⟩
    intro before after hcs
    exact hescape (c :: before) after (by rw [hcs]; rfl)
  · rintro ⟨hc, hfirst, hquote, hescape⟩
    refine ⟨by simp [Ne.symm hc, hquote], fun before after h => ?_⟩
    cases before with
    | nil =>
      obtain ⟨rfl, rfl⟩ := List.cons.inj h
      exact hfirst rfl
    | cons b before =>
      obtain ⟨rfl, hcs⟩ := List.cons.inj h
      exact hescape before after hcs

/-- A character after a backslash stands for itself and the backslash, or for one character, which
is a backslash only if it is one itself. -/
theorem unescape_cases (d : Char) :
    unescape d = ['\\', d] ∧ d ≠ '"' ∧ d ≠ '\\' ∨
      ∃ x, unescape d = [x] ∧ (x = '\\' → d = '\\') := by
  unfold unescape
  split
  · exact .inr ⟨_, rfl, by decide⟩
  · exact .inr ⟨_, rfl, by decide⟩
  · exact .inr ⟨_, rfl, fun _ => rfl⟩
  · exact .inr ⟨_, rfl, by decide⟩
  · exact .inr ⟨_, rfl, by decide⟩
  · next hquote _ hbackslash _ _ => exact .inl ⟨rfl, hquote, hbackslash⟩

theorem quotedBody_quote (rest : List Char) : quotedBody '"' ('"' :: rest) = some ([], rest) := by
  cases rest <;> rfl

theorem quotedBody_backslash (d : Char) (rest : List Char) :
    quotedBody '"' ('\\' :: d :: rest) =
      (quotedBody '"' rest).map fun x => (unescape d ++ x.1, x.2) := rfl

theorem quotedBody_cons {c : Char} (hquote : c ≠ '"') (hbackslash : c ≠ '\\') (cs : List Char) :
    quotedBody '"' (c :: cs) = (quotedBody '"' cs).map fun x => (c :: x.1, x.2) := by
  cases cs with
  | nil => exact if_neg hquote
  | cons d rest => rw [quotedBody, if_neg hquote, if_neg hbackslash]

/-- A text that quotes leave as it is comes back from between them. -/
theorem quotedBody_of_verbatim (cs : List Char) (h : Verbatim cs) (rest : List Char) :
    quotedBody '"' (cs ++ '"' :: rest) = some (cs, rest) := by
  match cs with
  | [] => exact quotedBody_quote rest
  | c :: cs =>
    obtain ⟨hquote, hescape, hcs⟩ := verbatim_cons.1 h
    by_cases hc : c = '\\'
    · obtain ⟨d, more, rfl, hd⟩ := hescape hc
      have hmore := quotedBody_of_verbatim more (verbatim_cons.1 hcs).2.2 rest
      rw [hc, List.cons_append, List.cons_append, quotedBody_backslash, hmore, hd]
      rfl
    · rw [List.cons_append, quotedBody_cons hquote hc, quotedBody_of_verbatim cs hcs rest]
      rfl
  termination_by cs.length
  decreasing_by all_goals grind

theorem verbatim_of_quotedBody_replicate (cs : List Char) (k : Nat) {rest rest' : List Char}
    (h : quotedBody '"' (cs ++ '"' :: rest) = some (List.replicate k '\\' ++ cs, rest')) :
    k = 0 ∧ Verbatim cs := by
  match cs with
  | [] =>
    rw [List.nil_append, quotedBody_quote] at h
    cases k <;> cases h
    exact ⟨rfl, verbatim_nil⟩
  | c :: cs =>
    by_cases hquote : c = '"'
    · rw [hquote, List.cons_append, quotedBody_quote] at h
      cases k <;> cases h
    by_cases hbackslash : c = '\\'
    · subst hbackslash
      have hshift (xs : List Char) : List.replicate k '\\' ++ '\\' :: xs =
          '\\' :: (List.replicate k '\\' ++ xs) := by
        rw [List.append_cons, ← List.replicate_succ', List.replicate_succ, List.cons_append]
      cases cs with
      | nil =>
        -- the backslash takes the closing quote with it
        obtain ⟨⟨body, rest'⟩, -, heq⟩ := Option.map_eq_some_iff.1 h
        obtain ⟨hlist, -⟩ := Prod.mk.inj heq
        rw [hshift] at hlist
        exact absurd (List.cons.inj hlist).1 (by decide)
      | cons d more =>
        rw [List.cons_append, List.cons_append, quotedBody_backslash] at h
        obtain ⟨⟨body, rest'⟩, hbody, heq⟩ := Option.map_eq_some_iff.1 h
        obtain ⟨hlist, -⟩ := Prod.mk.inj heq
        dsimp only at hlist
        rw [hshift] at hlist
        rcases unescape_cases d with ⟨hd, hdquote, hdbackslash⟩ | ⟨x, hx, hd⟩
        · rw [hd] at hlist
          have htail := (List.cons.inj hlist).2
          cases k with
          | zero =>
            obtain ⟨-, rfl⟩ := List.cons.inj htail
            obtain ⟨-, hmore⟩ := verbatim_of_quotedBody_replicate body 0 hbody
            have hrest := verbatim_cons.2 ⟨hdquote, fun h => absurd h hdbackslash, hmore⟩
            exact ⟨rfl, verbatim_cons.2 ⟨hquote, fun _ => ⟨d, body, rfl, hd⟩, hrest⟩⟩
          | succ k => exact absurd (List.cons.inj htail).1 hdbackslash
        · -- a pair of backslashes stands for one, so the text in quotes lags behind by one more
          rw [hx] at hlist
          obtain ⟨hxbackslash, rfl⟩ := List.cons.inj hlist
          rw [hd hxbackslash, hshift, ← List.cons_append, ← List.replicate_succ] at hbody
          exact absurd (verbatim_of_quotedBody_replicate more (k + 1) hbody).1 (Nat.succ_ne_zero k)
    · rw [List.cons_append, quotedBody_cons hquote hbackslash] at h
      obtain ⟨⟨body, rest'⟩, hbody, heq⟩ := Option.map_eq_some_iff.1 h
      obtain ⟨hlist, -⟩ := Prod.mk.inj heq
      cases k with
      | zero =>
        obtain ⟨-, rfl⟩ := List.cons.inj hlist
        obtain ⟨-, hcs⟩ := verbatim_of_quotedBody_replicate body 0 hbody
        exact ⟨rfl, verbatim_cons.2 ⟨hquote, fun hc => absurd hc hbackslash, hcs⟩⟩
      | succ k => exact absurd (List.cons.inj hlist).1 hbackslash
  termination_by cs.length
  decreasing_by all_goals grind

/-- A text that comes back from between quotes is one that they leave as it is. -/
theorem verbatim_of_quotedBody {cs rest rest' : List Char}
    (h : quotedBody '"' (cs ++ '"' :: rest) = some (cs, rest')) : Verbatim cs :=
  (verbatim_of_quotedBody_replicate cs 0 h).2

instance (cs : List Char) : Decidable (Verbatim cs) :=
  decidable_of_iff (quotedBody '"' (cs ++ ['"']) = some (cs, []))
    ⟨verbatim_of_quotedBody, fun h => quotedBody_of_verbatim cs h []⟩

/-- What stands between a quote and the next one that is not escaped is a text. -/
theorem token?_quote (cs : List Char) : token? ('"' :: cs) =
    (quotedBody '"' cs).map fun x => (.string (String.ofList x.1), x.2) := by
  have hquoted : quoted? ('"' :: cs) = quotedBody '"' cs := rfl
  rw [token?, number?_eq_none rfl (by decide), hquoted]
  cases quotedBody '"' cs with
  | none => rfl
  | some => rfl

end Appraisal.Lexer
