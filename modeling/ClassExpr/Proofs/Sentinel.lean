/-
The sentinel is a token that fits nowhere.

A text that is followed by the sentinel ends in a token that ends in it, be it
a word that the sentinel prolongs or a quote that was never closed.  No such
token is a reserved word, a mark, a number or a closed literal, so it is
refused in every phase unless it is a name.  Behind a delimiter with all quotes
closed the sentinel is a token of its own, and so is the word it stands for.
What follows a refused token has no part in the answer.
-/
import ClassExpr.Proofs.VocabularyWords
import ClassExpr.Proofs.WordAtCaret

namespace ClassExpr

namespace Text

variable {text : Text}

theorem star_mem_dropSign (hstar : '*' ∈ text) : '*' ∈ dropSign text := by
  unfold dropSign
  split
  · simpa using hstar
  · simpa using hstar
  · exact hstar

theorem star_mem_dropWhile_isDigit (hstar : '*' ∈ text) :
    '*' ∈ text.dropWhile Char.isDigit := by
  rw [← List.takeWhile_append_dropWhile (p := Char.isDigit) (l := text)] at hstar
  rcases List.mem_append.1 hstar with hdigits | hrest
  · exact absurd (List.mem_takeWhile_imp hdigits) (by decide)
  · exact hrest

theorem all_isDigit_of_star (hstar : '*' ∈ text) : text.all Char.isDigit = false :=
  List.all_eq_false.2 ⟨'*', hstar, by decide⟩

theorem cardinality?_of_star (hstar : '*' ∈ text) : cardinality? text = none := by
  have hnone : ∀ digits : Text, '*' ∈ digits → decimal? digits = none := by
    intro digits hdigits
    simp [decimal?, all_isDigit_of_star hdigits]
  unfold cardinality?
  dsimp only
  split
  · rw [hnone _ (by simpa using hstar), Option.filter_none]
  · rw [hnone _ hstar, Option.filter_none]

theorem isExponent_of_star (hstar : '*' ∈ text) : isExponent text = false := by
  cases text with
  | nil => simp at hstar
  | cons c rest =>
      by_cases hmark : c = 'e' ∨ c = 'E'
      · have hrest : '*' ∈ rest := by
          rcases hmark with rfl | rfl <;> simpa using hstar
        simp [isExponent, all_isDigit_of_star (star_mem_dropSign hrest)]
      · simp [isExponent, not_or.1 hmark]

theorem isDecimalReal_of_star (hstar : '*' ∈ text) : isDecimalReal text = false := by
  have hrest := star_mem_dropWhile_isDigit hstar
  unfold isDecimalReal
  dsimp only
  split
  · rename_i tail htail
    rw [htail] at hrest
    have hfraction := star_mem_dropWhile_isDigit (List.mem_of_ne_of_mem (by decide) hrest)
    rw [isExponent_of_star hfraction, Bool.and_false]
  · rw [isExponent_of_star hrest, Bool.and_false]

theorem isSpecialReal_of_star (hstar : '*' ∈ text) : isSpecialReal text = false := by
  have hlower : Char.toLower '*' = '*' := by decide
  have hmem : '*' ∈ text.map Char.toLower := List.mem_map.2 ⟨'*', hstar, hlower⟩
  have hne : ∀ word : Text, '*' ∉ word → (text.map Char.toLower == word) = false := by
    intro word hword
    refine beq_eq_false_iff_ne.2 fun heq => hword ?_
    rwa [heq] at hmem
  unfold isSpecialReal
  dsimp only
  rw [hne _ (by decide), hne _ (by decide), hne _ (by decide)]
  rfl

/-- A number has no star in it. -/
theorem isReal_of_star (hstar : '*' ∈ text) : isReal text = false := by
  have hsigned := star_mem_dropSign hstar
  rw [isReal, isDecimalReal_of_star hsigned, isSpecialReal_of_star hsigned]
  rfl

end Text

namespace Token

/-- What ends in a star is no literal. -/
theorem isLiteral_of_star {token : Token} (hlast : token.getLast? = some '*') :
    token.isLiteral = false := by
  have hreal := Text.isReal_of_star (List.mem_of_getLast? hlast)
  have htrue : token ≠ Keyword.true.word := by
    rintro rfl
    exact absurd hlast (by decide)
  have hfalse : token ≠ Keyword.false.word := by
    rintro rfl
    exact absurd hlast (by decide)
  simp [isLiteral, hreal, hlast, htrue, hfalse]

/-- Outside quotes the sentinel prolongs the pending word, and inside quotes
it is quoted with the rest. -/
theorem scan_sentinel (quoted : Bool) (pending : Text) :
    scan quoted pending defaultSentinel = [pending.reverse ++ defaultSentinel] := by
  have hword : ∀ c ∈ defaultSentinel, isWordChar c = true := List.all_eq_true.1 (by decide)
  have hquote : '"' ∉ defaultSentinel := by decide
  have hscan : scan quoted pending (defaultSentinel ++ []) =
      scan quoted (defaultSentinel.reverse ++ pending) [] := by
    cases quoted with
    | true => exact scan_quoted hquote pending []
    | false => exact scan_word hword pending []
  rw [List.append_nil] at hscan
  rw [hscan, scan]
  simp [flush, defaultSentinel]

/-- The last token of a text with the sentinel behind it ends in the
sentinel. -/
theorem exists_ofText_sentinel (before : Text) :
    ∃ tokens word, ofText (before ++ defaultSentinel) = tokens ++ [word ++ defaultSentinel] :=
  ⟨_, _, by rw [ofText_append, Scanned.finish, scan_sentinel]⟩

/-- Outside quotes a blank ends the token that ends in the sentinel. -/
theorem ofText_sentinel_space {before : Text} (hquotes : before.count '"' % 2 = 0) (rest : Text) :
    ofText (before ++ defaultSentinel ++ ' ' :: rest) =
      ofText (before ++ defaultSentinel) ++ ofText rest := by
  have hnone : defaultSentinel.count '"' = 0 := by decide
  apply ofText_append_space
  rw [List.count_append, hnone, Nat.add_zero]
  exact hquotes

end Token

namespace ParseState

variable {names : NameTable}

/-- A token that ends in a star and is no name is refused in every phase. -/
theorem step_starred {token : Token} (hlast : token.getLast? = some '*')
    (hnone : names.kind? token = none) (state : ParseState) :
    state.step names token = .error state.phase.expectations := by
  obtain ⟨phase, depth⟩ := state
  have hcount : Text.cardinality? token = none :=
    Text.cardinality?_of_star (List.mem_of_getLast? hlast)
  have hliteral := Token.isLiteral_of_star hlast
  have hne : ∀ other : Token, other.getLast? ≠ some '*' → token ≠ other := by
    rintro other hother rfl
    exact hother hlast
  have hkeyword : ∀ keyword : Keyword, token ≠ keyword.word :=
    fun keyword => hne _ (by cases keyword <;> decide)
  have hclose := hne Token.closeGroup (by decide)
  have hends : token.endsOperand = false := by simp [Token.endsOperand, hkeyword, hclose]
  have hbegin : beginOperand names depth token = .error Phase.operand.expectations := by
    simp [beginOperand, hkeyword, hne Token.openGroup (by decide), hne Token.openSet (by decide),
      hnone]
  have hafter : afterOperand depth token = .error Phase.complete.expectations := by
    simp [afterOperand, hkeyword, hclose]
  cases phase with
  | objectFiller =>
      have hsame : Phase.objectFiller.expectations = Phase.operand.expectations := rfl
      simp [step, hends, hbegin, hsame]
  | _ =>
      simp [step, hbegin, hafter, restriction, hkeyword, name, hnone, count, hcount, hliteral,
        hends, hne Token.comma (by decide), hne Token.closeSet (by decide)]

/-- A reading that comes to such a token is refused there, whatever follows. -/
theorem exists_run_starred {token : Token} (hlast : token.getLast? = some '*')
    (hnone : names.kind? token = none) (tokens : List Token) (state : ParseState) :
    ∃ expectations, ∀ rest, state.run names (tokens ++ token :: rest) = .error expectations := by
  induction tokens generalizing state with
  | nil =>
      refine ⟨state.phase.expectations, fun rest => ?_⟩
      rw [List.nil_append, run, step_starred hlast hnone]
  | cons first tokens ih =>
      cases hstep : state.step names first with
      | error expectations =>
          refine ⟨expectations, fun rest => ?_⟩
          rw [List.cons_append, run, hstep]
      | ok next =>
          obtain ⟨expectations, hrefused⟩ := ih next
          refine ⟨expectations, fun rest => ?_⟩
          rw [List.cons_append, run, hstep]
          exact hrefused rest

end ParseState

namespace NameTable

/-- None of the names ends in the sentinel. -/
def Unstarred (names : NameTable) : Prop :=
  ∀ name kind, names.kind? name = some kind → ¬ defaultSentinel <:+ name

theorem unstarred_ofVocabulary {render : Rendering} {vocabulary : Vocabulary}
    (hrender : ∀ entity ∈ vocabulary, ¬ defaultSentinel <:+ render entity) :
    (ofVocabulary render vocabulary).Unstarred := by
  intro name kind hkind
  obtain ⟨entity, hentity, rfl, _⟩ := exists_of_kind?_ofVocabulary hkind
  exact hrender entity hentity

/-- A token that ends in the sentinel is refused, whatever follows it. -/
theorem Unstarred.exists_recognise_eq_error {names : NameTable} (hnames : names.Unstarred)
    (tokens : List Token) (word : Text) :
    ∃ expectations, ∀ rest,
      recognise names (tokens ++ (word ++ defaultSentinel) :: rest) = .error expectations := by
  have hnone : names.kind? (word ++ defaultSentinel) = none := by
    cases hkind : names.kind? (word ++ defaultSentinel) with
    | none => rfl
    | some kind => exact absurd (List.suffix_append _ _) (hnames _ kind hkind)
  have hlast : (word ++ defaultSentinel).getLast? = some '*' := by simp [defaultSentinel]
  exact ParseState.exists_run_starred hlast hnone tokens ParseState.start

/-- Behind any text the sentinel is refused. -/
theorem Unstarred.exists_check_eq_expected {names : NameTable} (hnames : names.Unstarred)
    (before : Text) :
    ∃ expectations, names.check (before ++ defaultSentinel) = .expected expectations := by
  obtain ⟨tokens, word, htokens⟩ := Token.exists_ofText_sentinel before
  obtain ⟨expectations, hrefused⟩ := hnames.exists_recognise_eq_error tokens word
  refine ⟨expectations, ?_⟩
  rw [check, htokens, hrefused []]

/-- A text is never accepted with the sentinel behind it.  At a word behind
closed quotes the sentinel is a token of its own, and the tokens of the text
up to the caret are those before the word and those of the word. -/
theorem sentinel_refused_and_apart (render : Rendering) (vocabulary : Vocabulary)
    (hrender : ∀ entity ∈ vocabulary, ¬ defaultSentinel <:+ render entity) :
    let names := ofVocabulary render vocabulary
    (∀ before, ∃ expectations,
        names.check (before ++ defaultSentinel) = .expected expectations ∧
          Probe.ask ⟨names.check, defaultSentinel⟩ before = .ok (.expected expectations)) ∧
      ∀ text caret word, Delimiters.standard.locate text caret = .ok (some word) →
        (text.take word.start).count '"' % 2 = 0 →
          Token.ofText (text.take word.start ++ defaultSentinel) =
              Token.ofText (text.take word.start) ++ [defaultSentinel] ∧
            Token.ofText (text.take caret) =
              Token.ofText (text.take word.start) ++ Token.ofText word.text := by
  intro names
  constructor
  · intro before
    have hnames : names.Unstarred := unstarred_ofVocabulary hrender
    obtain ⟨expectations, hcheck⟩ := hnames.exists_check_eq_expected before
    exact ⟨expectations, hcheck, by simp [Probe.ask, Probe.query, hcheck]⟩
  · intro text caret word hlocate hquotes
    obtain ⟨front, happend, hstart, hfront, _⟩ := Delimiters.exists_append_of_locate hlocate
    rw [Delimiters.take_start_of_locate hlocate happend hstart] at hquotes ⊢
    have hcut : Token.Separated front := Token.AtBoundary.separated_of_even hfront hquotes
    exact ⟨hcut defaultSentinel, by rw [happend, hcut]⟩

/-- The sentinel behind a closed literal, in place of a word that a tab cuts
into two tokens. -/
theorem sentinel_refused_and_apart_tab :
    let vocabulary : Vocabulary := [⟨.cls, "menu#Pizza".toList⟩, ⟨.dataProperty, "*".toList⟩]
    let names := ofVocabulary Entity.short vocabulary
    let text := "* value \"a b\" Pizza\tso".toList
    let before := "* value \"a b\" ".toList
    Delimiters.standard.locate text 22 = .ok (some ⟨14, 22, "Pizza\tso".toList⟩) ∧
      (∃ expectations, names.check (before ++ defaultSentinel) = .expected expectations ∧
        Probe.ask ⟨names.check, defaultSentinel⟩ before = .ok (.expected expectations)) ∧
      Token.ofText (before ++ defaultSentinel) = Token.ofText before ++ [defaultSentinel] ∧
      Token.ofText text = Token.ofText before ++ ["Pizza".toList, "so".toList] := by
  intro vocabulary names text before
  have hlocate : Delimiters.standard.locate text 22 =
      .ok (some ⟨14, 22, "Pizza\tso".toList⟩) := by decide
  have hrender : ∀ entity ∈ vocabulary, ¬ defaultSentinel <:+ entity.short := by decide
  obtain ⟨hrefused, hapart⟩ := sentinel_refused_and_apart Entity.short vocabulary hrender
  obtain ⟨hsentinel, htext⟩ := hapart text 22 _ hlocate (by decide)
  exact ⟨hlocate, hrefused before, hsentinel, htext⟩

/-- What is expected in place of the sentinel does not depend on what follows
it, neither in a text with closed quotes nor in a list of tokens. -/
theorem refusal_decided_at_sentinel (render : Rendering) (vocabulary : Vocabulary)
    (hrender : ∀ entity ∈ vocabulary, ¬ defaultSentinel <:+ render entity) :
    let names := ofVocabulary render vocabulary
    (∀ before, before.count '"' % 2 = 0 →
      ∃ expectations, names.check (before ++ defaultSentinel) = .expected expectations ∧
        ∀ rest, names.check (before ++ defaultSentinel ++ ' ' :: rest) = .expected expectations) ∧
      ∀ tokens,
        ∃ expectations, recognise names (tokens ++ [defaultSentinel]) = .error expectations ∧
          ∀ rest,
            recognise names (tokens ++ [defaultSentinel] ++ rest) = .error expectations := by
  intro names
  have hnames : names.Unstarred := unstarred_ofVocabulary hrender
  constructor
  · intro before hquotes
    obtain ⟨tokens, word, htokens⟩ := Token.exists_ofText_sentinel before
    obtain ⟨expectations, hrefused⟩ := hnames.exists_recognise_eq_error tokens word
    refine ⟨expectations, ?_, fun rest => ?_⟩
    · rw [check, htokens, hrefused []]
    · rw [check, Token.ofText_sentinel_space hquotes, htokens, List.append_assoc,
        List.singleton_append, hrefused]
  · intro tokens
    obtain ⟨expectations, hrefused⟩ := hnames.exists_recognise_eq_error tokens []
    refine ⟨expectations, hrefused [], fun rest => ?_⟩
    rw [List.append_assoc]
    exact hrefused rest

/-- The sentinel prolongs the beginning of a name behind a closed literal, and an
open quote follows. -/
theorem refusal_decided_at_sentinel_open :
    let vocabulary : Vocabulary := [⟨.cls, "menu#Pizza".toList⟩, ⟨.dataProperty, "a**b".toList⟩]
    let names := ofVocabulary Entity.short vocabulary
    let before := "a**b value \"big pie\" and Piz".toList
    before.count '"' % 2 = 0 ∧
      names.check (before ++ defaultSentinel) = .expected Phase.operand.expectations ∧
      names.check (before ++ defaultSentinel ++ " Pizza) \"".toList) =
        .expected Phase.operand.expectations ∧
      recognise names ["a**b".toList, defaultSentinel, "some".toList] =
        recognise names ["a**b".toList, defaultSentinel] := by
  intro vocabulary names before
  have hrender : ∀ entity ∈ vocabulary, ¬ defaultSentinel <:+ entity.short := by decide
  have hquotes : before.count '"' % 2 = 0 := by decide
  obtain ⟨htext, htokens⟩ := refusal_decided_at_sentinel Entity.short vocabulary hrender
  obtain ⟨expectations, hcheck, hfollowed⟩ := htext before hquotes
  obtain ⟨_, hrefused, hrest⟩ := htokens ["a**b".toList]
  have hoperand : names.check (before ++ defaultSentinel) =
      .expected Phase.operand.expectations := by decide
  obtain rfl := Verdict.expected.inj (hcheck.symm.trans hoperand)
  exact ⟨hquotes, hcheck, hfollowed "Pizza) \"".toList,
    (hrest ["some".toList]).trans hrefused.symm⟩

end NameTable

end ClassExpr
