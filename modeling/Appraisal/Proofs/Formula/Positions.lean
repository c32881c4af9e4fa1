import Appraisal.Formula.Error
import Appraisal.Proofs.Formula.Sandbox

/-!
# Positions count characters

The position of a token is the number of characters in front of it, whatever comes between the
tokens and however many bytes the characters take. Cutting a source lays it out in words, one for
each token, with blanks and comments before each word and before the end (`Lexer.Tiled`,
`Lexer.tiled_of_tokenize`). So the positions of the tokens ascend (`Lexer.Tiled.pairwise`), each
token stands where its position says, and the last position is the number of characters of the
source (`Lexer.Tiled.exists_front`).

Whatever is complained about lies between the start and the end of the source. A source that is
refused is reported with its place (`Expr.positions_of_source`).
-/

namespace Appraisal

namespace Lexer

/-! ### What is cut off stands at the front -/

theorem suffix_of_afterComment? {cs rest : List Char} (h : afterComment? cs = some rest) :
    rest <:+ cs := by
  fun_induction afterComment? cs with
  | case4 => cases h
  | case5 c more _ _ _ ih => exact (ih h).trans (List.suffix_cons c more)
  | _ =>
    cases h
    exact List.suffix_rfl

theorem skipBlanks_suffix (cs : List Char) : skipBlanks cs <:+ cs := by
  fun_induction skipBlanks cs with
  | case2 c more _ ih => exact ih.trans (List.suffix_cons c more)
  | case3 more rest h _ ih =>
    exact (ih.trans (suffix_of_afterComment? h)).trans (List.suffix_cons _ _)
  | _ => exact List.suffix_rfl

theorem splitSign_suffix (cs : List Char) : (Number.splitSign cs).2 <:+ cs := by
  unfold Number.splitSign
  split
  · exact List.suffix_cons _ _
  · exact List.suffix_cons _ _
  · exact List.suffix_rfl

theorem exponent_suffix (cs : List Char) : (exponent cs).2 <:+ cs := by
  unfold exponent
  split
  · exact List.suffix_rfl
  · next c rest =>
    dsimp only
    split
    · have hdigits := List.dropWhile_suffix (l := (Number.splitSign rest).2) Char.isDigit
      exact (hdigits.trans (splitSign_suffix rest)).trans (List.suffix_cons c rest)
    · exact List.suffix_rfl

theorem suffix_of_number? {cs rest : List Char} {n : Numeral} (h : number? cs = some (n, rest)) :
    rest <:+ cs := by
  have hwhole := List.dropWhile_suffix (l := cs) Char.isDigit
  simp only [number?] at h
  split at h
  · next more hmore =>
    split at h
    · cases h
    · cases h
      rw [hmore] at hwhole
      have hfraction := List.dropWhile_suffix (l := more) Char.isDigit
      exact ((exponent_suffix _).trans hfraction).trans ((List.suffix_cons _ _).trans hwhole)
  · split at h
    · cases h
    · cases h
      exact (exponent_suffix _).trans hwhole

theorem suffix_of_quotedBody {quote : Char} {cs body rest : List Char}
    (h : quotedBody quote cs = some (body, rest)) : rest <:+ cs := by
  fun_induction quotedBody quote cs generalizing body rest with
  | case1 => cases h
  | case2 =>
    cases h
    exact List.nil_suffix
  | case3 => cases h
  | case4 d more =>
    cases h
    exact List.suffix_cons _ _
  | case5 d more _ ih =>
    obtain ⟨_, hbody, heq⟩ := Option.map_eq_some_iff.1 h
    cases heq
    exact (ih hbody).trans ((List.suffix_cons d more).trans (List.suffix_cons _ _))
  | case6 c d more _ _ ih =>
    obtain ⟨_, hbody, heq⟩ := Option.map_eq_some_iff.1 h
    cases heq
    exact (ih hbody).trans (List.suffix_cons c _)

theorem suffix_of_quoted? {cs body rest : List Char} (h : quoted? cs = some (body, rest)) :
    rest <:+ cs := by
  unfold quoted? at h
  split at h
  · cases h
  · split at h
    · exact (suffix_of_quotedBody h).trans (List.suffix_cons _ _)
    · cases h

theorem suffix_of_name? {cs rest : List Char} {t : Token} (h : name? cs = some (t, rest)) :
    rest <:+ cs := by
  unfold name? at h
  split at h
  · cases h
  · next c more =>
    have hword := (List.dropWhile_suffix (l := more) continuesName).trans (List.suffix_cons c more)
    split at h
    · dsimp only at h
      split at h
      · obtain ⟨_, hquoted, heq⟩ := Option.map_eq_some_iff.1 h
        cases heq
        exact (suffix_of_quoted? hquoted).trans hword
      · cases h
        exact hword
    · cases h

theorem suffix_of_symbol? {cs rest : List Char} {t : Token} (h : symbol? cs = some (t, rest)) :
    rest <:+ cs := by
  obtain ⟨s, -, hsome⟩ := List.exists_of_findSome?_eq_some h
  obtain ⟨_, hdrop, heq⟩ := Option.map_eq_some_iff.1 hsome
  cases heq
  exact ⟨_, (Text.dropPrefix?_eq_some_iff.1 hdrop).symm⟩

/-- What follows a token is the end of the text that it stands in. -/
theorem suffix_of_token? {cs rest : List Char} {t : Token} (h : token? cs = some (t, rest)) :
    rest <:+ cs := by
  rw [token?] at h
  split at h
  · next hnumber =>
    cases h
    exact suffix_of_number? hnumber
  split at h
  · next hquoted =>
    cases h
    exact suffix_of_quoted? hquoted
  rcases Option.or_eq_some_iff.1 h with h | ⟨-, h⟩
  · exact suffix_of_name? h
  · exact suffix_of_symbol? h

/-! ### Layout -/

/-- A text from its character number `place` on, laid out in words. In front of every word and of
the end stand only blanks and comments. -/
inductive Tiled : (place : Nat) → List Char → List PlacedToken → Prop
  | finish {place gap} (hgap : skipBlanks gap = []) :
    Tiled place gap [⟨.finish, place + gap.length⟩]
  | word {place gap word rest t tokens} (hgap : skipBlanks (gap ++ (word ++ rest)) = word ++ rest)
    (hword : word ≠ []) (htoken : token? (word ++ rest) = some (t, rest))
    (hrest : Tiled (place + gap.length + word.length) rest tokens) :
    Tiled place (gap ++ (word ++ rest)) (⟨t, place + gap.length⟩ :: tokens)

/-- A text that is cut into tokens is laid out in their words. -/
theorem tiled_of_tokensFrom (place : Nat) (cs : List Char) :
    ∀ tokens, tokensFrom place cs = .ok tokens → Tiled place cs tokens := by
  fun_induction tokensFrom place cs with
  | case1 place cs hend =>
    rintro _ ⟨⟩
    exact .finish hend
  | case2 =>
    intro tokens h
    cases h
  | case3 place cs c more hskip position t rest htoken ih =>
    intro tokens h
    obtain ⟨others, hothers, heq⟩ :=
      except_bind_eq_ok_iff.1 ((map_eq_pure_bind _ _).symm.trans h)
    cases heq
    have hrest := ih others hothers
    have hshorter := token?_length htoken
    obtain ⟨gap, hgap⟩ := skipBlanks_suffix cs
    obtain ⟨word, hword⟩ := suffix_of_token? htoken
    rw [hskip, ← hword] at hgap
    rw [← hword] at htoken hskip hshorter hrest
    subst hgap
    have hposition : position = place + gap.length := by
      show place + passed (gap ++ (word ++ rest)) (c :: more) = place + gap.length
      rw [← hword, passed_append]
    rw [List.length_append] at hshorter
    rw [passed_append, hposition] at hrest
    rw [hposition]
    exact .word hskip (List.length_pos_iff.1 (by omega)) htoken hrest

/-- A source that is cut into tokens is laid out in their words. -/
theorem tiled_of_tokenize {source : List Char} {tokens : List PlacedToken}
    (h : tokenize source = .ok tokens) : Tiled 0 source tokens :=
  tiled_of_tokensFrom 0 source tokens h

namespace Tiled

variable {place : Nat} {cs : List Char} {tokens : List PlacedToken}

theorem le_position (h : Tiled place cs tokens) : ∀ t ∈ tokens, place ≤ t.position := by
  induction h with
  | finish =>
    intro t ht
    rw [List.mem_singleton.1 ht]
    exact Nat.le_add_right ..
  | word _ _ _ _ ih =>
    refine List.forall_mem_cons.2 ⟨Nat.le_add_right .., fun t ht => ?_⟩
    have := ih t ht
    omega

/-- Words are not empty, so the positions ascend. -/
theorem pairwise (h : Tiled place cs tokens) :
    tokens.Pairwise fun t u => t.position < u.position := by
  induction h with
  | finish => exact List.pairwise_singleton ..
  | word _ hword _ hrest ih =>
    refine List.pairwise_cons.2 ⟨fun u hu => ?_, ih⟩
    have hlater := hrest.le_position u hu
    have hpos := List.length_pos_iff.2 hword
    dsimp only
    omega

/-- The last token is the end, after all characters. Every other one is the token of a word that
stands where its position says. -/
theorem exists_front (h : Tiled place cs tokens) :
    ∃ front, tokens = front ++ [⟨.finish, place + cs.length⟩] ∧ ∀ t ∈ front,
      ∃ before word after, cs = before ++ (word ++ after) ∧ t.position = place + before.length ∧
        word ≠ [] ∧ token? (word ++ after) = some (t.token, after) := by
  induction h with
  | finish => exact ⟨[], rfl, nofun⟩
  | @word place gap word rest t tokens _ hword htoken _ ih =>
    obtain ⟨front, hfront, hwords⟩ := ih
    refine ⟨⟨t, place + gap.length⟩ :: front, ?_, ?_⟩
    · rw [hfront, List.cons_append, List.length_append, List.length_append, Nat.add_assoc,
        Nat.add_assoc]
    · refine List.forall_mem_cons.2 ⟨⟨gap, word, rest, rfl, rfl, hword, htoken⟩, fun u hu => ?_⟩
      obtain ⟨before, later, after, hrest, hposition, hlater, hu⟩ := hwords u hu
      refine ⟨gap ++ word ++ before, later, after, ?_, ?_, hlater, hu⟩
      · rw [hrest, List.append_assoc, List.append_assoc]
      · rw [hposition, List.length_append, List.length_append, Nat.add_assoc, Nat.add_assoc,
          Nat.add_assoc]

end Tiled

end Lexer

/-! ### Reports -/

namespace FormulaError

/-- The place of the report is the place of the complaint. -/
theorem position?_ofParse (e : ParseError) : (ofParse e).position? = some e.position := by
  rw [ofParse]
  split <;> rfl

theorem isParseError_ofParse (e : ParseError) : (ofParse e).isParseError = true := by
  rw [ofParse]
  split <;> rfl

end FormulaError

/-- **Positions count characters.** If a source is cut into tokens, it is laid out in their words
with blanks and comments between them. The positions of the tokens ascend; the last token is the
end, at the number of characters of the source, and each other token is that of the word in front of
which as many characters stand as its position says. If a source is not parsed, under whatever
limits, the report is one about its text and has a place that is no greater than the number of its
characters. -/
theorem Expr.positions_of_source (source : String) :
    (∀ tokens, Lexer.tokenize source.toList = .ok tokens →
      Lexer.Tiled 0 source.toList tokens ∧
      (tokens.Pairwise fun t u => t.position < u.position) ∧
      ∃ front, tokens = front ++ [⟨.finish, source.length⟩] ∧ ∀ t ∈ front,
        ∃ before word after, source.toList = before ++ (word ++ after) ∧
          t.position = before.length ∧ word ≠ [] ∧
          Lexer.token? (word ++ after) = some (t.token, after)) ∧
    ∀ limits e, Expr.parse limits source = .error e →
      (FormulaError.ofParse e).isParseError = true ∧
        ∃ place, (FormulaError.ofParse e).position? = some place ∧ place ≤ source.length := by
  rw [← String.length_toList]
  refine ⟨fun tokens h => ?_, fun limits e h => ?_⟩
  · have htiled := Lexer.tiled_of_tokenize h
    obtain ⟨front, hfront, hwords⟩ := htiled.exists_front
    simp only [Nat.zero_add] at hfront hwords
    exact ⟨htiled, htiled.pairwise, front, hfront, hwords⟩
  · have hreads := Expr.reads_parse limits source
    rw [h] at hreads
    have hplace : e.position ≤ source.toList.length := Nat.le_trans hreads (Nat.min_le_left ..)
    have hreport := FormulaError.position?_ofParse e
    exact ⟨FormulaError.isParseError_ofParse e, e.position, hreport, hplace⟩

/-- A text with an escape, a comment, a line break and characters of two bytes, in front of an
operator without its second operand. -/
theorem Expr.positions_of_source_wide :
    let source := "\"é\\n\" # ü\n **"
    ∃ tokens e, Lexer.tokenize source.toList = .ok tokens ∧
      tokens.map PlacedToken.position = [0, 11, 13] ∧
      (tokens.Pairwise fun t u => t.position < u.position) ∧ Expr.parse {} source = .error e ∧
        ∃ place, (FormulaError.ofParse e).position? = some place ∧ place ≤ source.length := by
  intro source
  have hpositions : (Lexer.tokenize source.toList).toOption.map
      (fun tokens => tokens.map PlacedToken.position) = some [0, 11, 13] := by decide +kernel
  have hrefused : (Expr.parse {} source).isOk = false := by decide +kernel
  obtain ⟨hplaced, hreported⟩ := Expr.positions_of_source source
  cases htokens : Lexer.tokenize source.toList with
  | error e =>
    rw [htokens] at hpositions
    cases hpositions
  | ok tokens =>
    rw [htokens] at hpositions
    cases hparse : Expr.parse {} source with
    | ok e =>
      rw [hparse] at hrefused
      cases hrefused
    | error e =>
      obtain ⟨-, hascend, -⟩ := hplaced tokens htokens
      obtain ⟨-, hplace⟩ := hreported {} e hparse
      exact ⟨tokens, e, rfl, Option.some.inj hpositions, hascend, rfl, hplace⟩

end Appraisal
