/-
Which candidates keep a text viable, that is the beginning of a class
expression.

Behind a delimiter a text stands between two tokens or inside quotes.  In both
cases the answer to the sentinel is that of a state which the tokens before
have reached, and what can follow is what that state accepts.  So the
candidates keep a viable text viable, except behind an individual of an open
enumeration, where none of them does.
-/
import ClassExpr.Proofs.Continuation

namespace ClassExpr

/-- Behind an opening quote only the closing one makes a literal. -/
theorem Token.isLiteral_quote_concat (body : Text) (last : Char) :
    Token.isLiteral ('"' :: (body ++ [last])) = (last == '"') := by
  have hdigit : Char.isDigit '"' = false := by decide
  have hlower : Char.toLower '"' = '"' := by decide
  have hreal : Text.isReal ('"' :: (body ++ [last])) = false := by
    simp [Text.isReal, Text.dropSign, Text.isDecimalReal, Text.isSpecialReal, hdigit, hlower]
  have hlast : ('"' :: (body ++ [last])).getLast? = some last := by
    rw [← List.cons_append, List.getLast?_concat]
  simp [Token.isLiteral, hreal, hlast, Keyword.word]

namespace NameTable

variable {names : NameTable} {before : Text}

/-- The beginning of a class expression. -/
def Viable (names : NameTable) (text : Text) : Prop :=
  ∃ rest, names.check (text ++ rest) = .accepted

/-- A word that nothing prolongs keeps the text before it viable. -/
def Continues (names : NameTable) (before word : Text) : Prop :=
  ∃ rest, Token.Detached rest ∧ names.check (before ++ word ++ rest) = .accepted

/-- A refusal at the sentinel is what a probe finds. -/
theorem ask_eq_of_recognise {expectations : Expectations}
    (hrefused : recognise names (Token.ofText (before ++ defaultSentinel)) =
      .error expectations) :
    Probe.ask ⟨names.check, defaultSentinel⟩ before = .ok (.expected expectations) := by
  simp [Probe.ask, Probe.query, check, hrefused]

section Separated

variable (hcut : Token.Separated before)

include hcut

theorem recognise_of_separated {state : ParseState}
    (hread : ParseState.start.readAll names (Token.ofText before) = .ok state) (rest : Text) :
    recognise names (Token.ofText (before ++ rest)) = state.run names (Token.ofText rest) := by
  rw [recognise, hcut, ParseState.run_append, hread]
  rfl

theorem exists_readAll_of_separated (hviable : names.Viable before) :
    ∃ state, ParseState.start.readAll names (Token.ofText before) = .ok state := by
  obtain ⟨rest, hrest⟩ := hviable
  rw [check_accepts_iff, hcut] at hrest
  obtain ⟨state, hread, _⟩ := ParseState.exists_readAll_of_run hrest
  exact ⟨state, hread⟩

theorem ask_of_separated (hspelt : names.WellSpelt) {state : ParseState}
    (hread : ParseState.start.readAll names (Token.ofText before) = .ok state) :
    Probe.ask ⟨names.check, defaultSentinel⟩ before =
      .ok (.expected state.phase.expectations) := by
  have hnone : names.kind? defaultSentinel = none := hspelt.kind?_eq_none (by decide)
  have htokens : Token.ofText defaultSentinel = [defaultSentinel] := by decide
  apply ask_eq_of_recognise
  rw [recognise_of_separated hcut hread, htokens, ParseState.run,
    ParseState.step_starred rfl hnone]

/-- Between two tokens a word keeps the text viable exactly if the state
accepts it. -/
theorem continues_iff_of_separated (hspelt : names.WellSpelt) {state : ParseState}
    (hread : ParseState.start.readAll names (Token.ofText before) = .ok state) {word : Token}
    (hword : word.IsWord) :
    names.Continues before word ↔ ∃ next, state.step names word = .ok next := by
  have hrun : ∀ rest, Token.Detached rest →
      (names.check (before ++ word ++ rest) = .accepted ↔
        state.run names (word :: Token.ofText rest) = .ok ()) := by
    intro rest hrest
    have htokens : Token.ofText (word ++ rest) = word :: Token.ofText rest :=
      Token.scan_word_detached hword hrest
    rw [check_accepts_iff, List.append_assoc, recognise_of_separated hcut hread, htokens]
  constructor
  · rintro ⟨rest, hrest, haccepted⟩
    obtain ⟨next, hstep, _⟩ := ParseState.exists_step_of_run ((hrun rest hrest).1 haccepted)
    exact ⟨next, hstep⟩
  · rintro ⟨next, hstep⟩
    obtain ⟨tokens, htokens, haccepted⟩ := ParseState.exists_run_eq_ok hspelt next
    have hrest := Token.detached_spaced tokens
    refine ⟨Token.spaced tokens, hrest, (hrun _ hrest).2 ?_⟩
    rw [ParseState.run_cons_of_step hstep, Token.ofText_spaced htokens, haccepted]

end Separated

section Quoting

variable {tokens : List Token} {inner : Text} (hquoting : Token.Quoting before tokens inner)

include hquoting

theorem recognise_of_quoting {state : ParseState}
    (hread : ParseState.start.readAll names tokens = .ok state) (rest : Text) :
    recognise names (Token.ofText (before ++ rest)) =
      state.run names (Token.scan true (inner ++ ['"']) rest) := by
  rw [recognise, hquoting, ParseState.run_append, hread]
  rfl

/-- Inside quotes a viable text is in the middle of a literal. -/
theorem exists_readAll_of_quoting (hspelt : names.WellSpelt) (hviable : names.Viable before) :
    ∃ depth, ParseState.start.readAll names tokens = .ok ⟨.literal, depth⟩ := by
  obtain ⟨rest, hrest⟩ := hviable
  rw [check_accepts_iff, hquoting] at hrest
  obtain ⟨state, hread, hrun⟩ := ParseState.exists_readAll_of_run hrest
  obtain ⟨body, others, hscan⟩ := Token.scan_pending_quote inner rest
  rw [hscan] at hrun
  obtain ⟨next, hstep, _⟩ := ParseState.exists_step_of_run hrun
  obtain ⟨phase, depth⟩ := state
  obtain rfl : phase = .literal := ParseState.phase_of_step_quoted hspelt hstep
  exact ⟨depth, hread⟩

theorem ask_of_quoting {depth : Nat}
    (hread : ParseState.start.readAll names tokens = .ok ⟨.literal, depth⟩) :
    Probe.ask ⟨names.check, defaultSentinel⟩ before =
      .ok (.expected Phase.literal.expectations) := by
  have hscan : Token.scan true (inner ++ ['"']) defaultSentinel =
      ['"' :: (inner.reverse ++ defaultSentinel)] := by
    simp [defaultSentinel, Token.scan, Token.flush]
  have hopen : Token.isLiteral ('"' :: (inner.reverse ++ defaultSentinel)) = false := by
    have hsentinel : inner.reverse ++ defaultSentinel = (inner.reverse ++ ['*']) ++ ['*'] := by
      simp [defaultSentinel]
    rw [hsentinel, Token.isLiteral_quote_concat]
    rfl
  apply ask_eq_of_recognise
  rw [recognise_of_quoting hquoting hread, hscan, ParseState.run, ParseState.step]
  simp [hopen]

/-- Inside quotes every word keeps the text viable: a quote can close the
literal behind it. -/
theorem continues_of_quoting (hspelt : names.WellSpelt) {depth : Nat}
    (hread : ParseState.start.readAll names tokens = .ok ⟨.literal, depth⟩) {word : Token}
    (hword : word.IsWord) : names.Continues before word := by
  obtain ⟨ending, hending, haccepted⟩ :=
    ParseState.exists_run_eq_ok hspelt ⟨.complete, depth⟩
  -- The blank keeps the word apart and is part of the literal that the quote closes.
  refine ⟨' ' :: '"' :: Token.spaced ending, Or.inr rfl, ?_⟩
  have hinside : '"' ∉ word ++ [' '] := by
    intro hmem
    rcases List.mem_append.1 hmem with hquote | hquote
    · exact absurd (hword.2 _ hquote) (by decide)
    · exact absurd hquote (by decide)
  have hscan : Token.scan true (inner ++ ['"']) (word ++ ' ' :: '"' :: Token.spaced ending) =
      ('"' :: ((inner.reverse ++ word ++ [' ']) ++ ['"'])) :: ending := by
    have hword := Token.scan_quoted hinside (inner ++ ['"']) ('"' :: Token.spaced ending)
    have hending := Token.ofText_spaced hending
    rw [Token.ofText] at hending
    simp only [List.append_assoc, List.singleton_append] at hword
    rw [hword, Token.scan, if_pos rfl, if_pos rfl, hending]
    simp
  have hclosed : ParseState.step names ⟨.literal, depth⟩
      ('"' :: ((inner.reverse ++ word ++ [' ']) ++ ['"'])) = .ok ⟨.complete, depth⟩ := by
    rw [ParseState.step, Token.isLiteral_quote_concat]
    rfl
  rw [check_accepts_iff, List.append_assoc, recognise_of_quoting hquoting hread, hscan,
    ParseState.run_cons_of_step hclosed, haccepted]

/-- Inside quotes no text ends behind an individual. -/
theorem not_afterMember_of_quoting (hspelt : names.WellSpelt) :
    ¬ AfterMember names (Token.ofText before) := by
  intro hafter
  obtain ⟨init, name, htokens, hname⟩ := hafter.exists_concat
  have hlast : '"' :: inner.reverse = name := by
    have hbefore := hquoting []
    rw [List.append_nil, htokens] at hbefore
    simpa [Token.scan, Token.flush] using (congrArg List.getLast? hbefore).symm
  rw [← hlast, hspelt.kind?_quote] at hname
  cases hname

end Quoting

/-- What a state tells about the text behind which it stands. -/
structure StandsAt (names : NameTable) (before : Text) (state : ParseState) : Prop where
  asked : Probe.ask ⟨names.check, defaultSentinel⟩ before =
    .ok (.expected state.phase.expectations)
  continues : ∀ word : Token, word.IsWord → (∃ next, state.step names word = .ok next) →
    names.Continues before word
  accepts : state.phase = .memberEnd → ∀ word : Token, word.IsWord →
    names.Continues before word → ∃ next, state.step names word = .ok next
  afterMember : state.phase = .memberEnd ↔ AfterMember names (Token.ofText before)

/-- Behind a delimiter a viable text has led the recogniser to a state that
tells how it can go on. -/
theorem exists_standsAt (hspelt : names.WellSpelt) (hboundary : Token.AtBoundary before)
    (hviable : names.Viable before) : ∃ state, names.StandsAt before state := by
  rcases hboundary.separated_or_quoting with hcut | ⟨tokens, inner, hquoting⟩
  · obtain ⟨state, hread⟩ := exists_readAll_of_separated hcut hviable
    refine ⟨state, ask_of_separated hcut hspelt hread, ?_, ?_,
      ParseState.phase_eq_memberEnd_iff hspelt.unreserved hread⟩
    · intro word hword hstep
      exact (continues_iff_of_separated hcut hspelt hread hword).2 hstep
    · intro _ word hword hcontinues
      exact (continues_iff_of_separated hcut hspelt hread hword).1 hcontinues
  · obtain ⟨depth, hread⟩ := exists_readAll_of_quoting hquoting hspelt hviable
    -- A literal is no individual, so both statements about enumerations are void here.
    refine ⟨⟨.literal, depth⟩, ask_of_quoting hquoting hread, ?_, ?_, ?_⟩
    · intro word hword _
      exact continues_of_quoting hquoting hspelt hread hword
    · intro hphase
      cases hphase
    · constructor
      · intro hphase
        cases hphase
      · intro hafter
        exact absurd hafter (not_afterMember_of_quoting hquoting hspelt)

end NameTable

/-- Every expected keyword is a word. -/
theorem Phase.isWord_of_mem_keywords (phase : Phase) :
    ∀ word ∈ phase.expectations.keywords, Token.IsWord word := by
  cases phase <;> decide

/-- Behind an individual of an enumeration exactly the connectives are
offered. -/
theorem CandidateSource.gather_memberEnd (vocabulary : Vocabulary) :
    vocabulary.shortSource.gather [] Phase.memberEnd.expectations =
      [.keyword Keyword.and.word, .keyword Keyword.or.word] :=
  rfl

namespace Vocabulary

variable {vocabulary : Vocabulary}

/-- A candidate for an empty partial word is a word of its own, and the state
that expects it accepts it. -/
theorem WellSpelt.step_of_mem_gather (hspelt : vocabulary.WellSpelt) {state : ParseState}
    {candidate : Candidate}
    (hcandidate : candidate ∈ vocabulary.shortSource.gather [] state.phase.expectations) :
    Token.IsWord candidate.insertion ∧
      (state.phase ≠ .memberEnd →
        ∃ next, state.step vocabulary.shortNames candidate.insertion = .ok next) := by
  have hfree := hspelt.shortNames.unreserved
  rcases CandidateSource.mem_gather_nil.1 hcandidate with
    ⟨word, hword, rfl⟩ | ⟨entity, hentity, hkind, rfl⟩
  · refine ⟨state.phase.isWord_of_mem_keywords word hword, fun hphase => ?_⟩
    exact ParseState.exists_step_of_keyword hfree hphase hword
  · have hname : vocabulary.shortNames.kind? entity.short = some entity.kind :=
      NameTable.kind?_ofVocabulary_of_mem hspelt.distinct hentity
    exact ⟨(hspelt.proper entity hentity).1,
      fun _ => ParseState.exists_step_of_kind hfree hkind hname⟩

/-- Behind an individual of an enumeration what is offered is refused. -/
theorem step_of_mem_gather_memberEnd {state : ParseState} (hphase : state.phase = .memberEnd)
    {candidate : Candidate}
    (hcandidate : candidate ∈ vocabulary.shortSource.gather [] state.phase.expectations) :
    state.step vocabulary.shortNames candidate.insertion =
      .error Phase.memberEnd.expectations := by
  rw [hphase, CandidateSource.gather_memberEnd] at hcandidate
  simp only [List.mem_cons, List.not_mem_nil, or_false] at hcandidate
  rcases hcandidate with rfl | rfl
  · exact ParseState.step_memberEnd_keyword hphase .and
  · exact ParseState.step_memberEnd_keyword hphase .or

/-- What is offered behind a delimiter keeps a viable text viable, except
behind an individual of an open enumeration: there the two connectives are
offered and neither can follow. -/
theorem offered_continues_iff (hspelt : vocabulary.WellSpelt) {before : Text}
    (hboundary : Token.AtBoundary before) (hviable : vocabulary.shortNames.Viable before) :
    ∃ expectations,
      Probe.ask ⟨vocabulary.shortNames.check, defaultSentinel⟩ before =
          .ok (.expected expectations) ∧
        (∀ candidate ∈ vocabulary.shortSource.gather [] expectations,
          vocabulary.shortNames.Continues before candidate.insertion ↔
            ¬ AfterMember vocabulary.shortNames (Token.ofText before)) ∧
        (AfterMember vocabulary.shortNames (Token.ofText before) →
          vocabulary.shortSource.gather [] expectations =
            [.keyword Keyword.and.word, .keyword Keyword.or.word]) := by
  obtain ⟨state, hstands⟩ := NameTable.exists_standsAt hspelt.shortNames hboundary hviable
  refine ⟨state.phase.expectations, hstands.asked, ?_, ?_⟩
  · intro candidate hcandidate
    obtain ⟨hword, hstep⟩ := hspelt.step_of_mem_gather hcandidate
    rw [← hstands.afterMember]
    constructor
    · intro hcontinues hphase
      obtain ⟨next, hnext⟩ := hstands.accepts hphase _ hword hcontinues
      rw [step_of_mem_gather_memberEnd hphase hcandidate] at hnext
      cases hnext
    · intro hphase
      exact hstands.continues _ hword (hstep hphase)
  · intro hafter
    rw [hstands.afterMember.2 hafter]
    exact CandidateSource.gather_memberEnd vocabulary

/-- One entity of each kind. -/
def menu : Vocabulary :=
  [⟨.cls, "menu#Pizza".toList⟩, ⟨.objectProperty, "menu#hasTopping".toList⟩,
   ⟨.dataProperty, "menu#hasPrice".toList⟩, ⟨.individual, "menu#Italy".toList⟩,
   ⟨.datatype, "menu#integer".toList⟩]

theorem menu_wellSpelt : menu.WellSpelt where
  inhabited := by decide
  distinct := by decide
  proper := by decide

/-- In a group, where a filler may follow. -/
theorem offered_continues_iff_filler :
    let before : Text := "Pizza and (hasTopping min 2 ".toList
    menu.WellSpelt ∧ Token.AtBoundary before ∧ menu.shortNames.Viable before ∧
      ∃ expectations,
        Probe.ask ⟨menu.shortNames.check, defaultSentinel⟩ before =
            .ok (.expected expectations) ∧
          (∀ candidate ∈ menu.shortSource.gather [] expectations,
            menu.shortNames.Continues before candidate.insertion ↔
              ¬ AfterMember menu.shortNames (Token.ofText before)) ∧
          (AfterMember menu.shortNames (Token.ofText before) →
            menu.shortSource.gather [] expectations =
              [.keyword Keyword.and.word, .keyword Keyword.or.word]) := by
  intro before
  have hboundary : Token.AtBoundary before := by decide
  have hviable : menu.shortNames.Viable before := ⟨")".toList, by decide⟩
  exact ⟨menu_wellSpelt, hboundary, hviable,
    offered_continues_iff menu_wellSpelt hboundary hviable⟩

/-- Behind the individual of an enumeration a connective is offered, and then
no text is a class expression any more. -/
theorem offered_connective_not_viable :
    let before : Text := "\x7bItaly ".toList
    menu.WellSpelt ∧ Token.AtBoundary before ∧ menu.shortNames.Viable before ∧
      ∃ expectations,
        Probe.ask ⟨menu.shortNames.check, defaultSentinel⟩ before =
            .ok (.expected expectations) ∧
          .keyword Keyword.and.word ∈ menu.shortSource.gather [] expectations ∧
          ¬ menu.shortNames.Continues before Keyword.and.word := by
  intro before
  have hboundary : Token.AtBoundary before := by decide
  have hviable : menu.shortNames.Viable before := ⟨"\x7d".toList, by decide⟩
  have hcut : Token.Separated before := Token.separated_of_pending rfl rfl
  have hread : ParseState.start.readAll menu.shortNames (Token.ofText before) =
      .ok ⟨.memberEnd, 0⟩ := rfl
  refine ⟨menu_wellSpelt, hboundary, hviable, Phase.memberEnd.expectations,
    NameTable.ask_of_separated hcut menu_wellSpelt.shortNames hread, ?_, ?_⟩
  · rw [CandidateSource.gather_memberEnd]
    exact List.mem_cons_self
  · rw [NameTable.continues_iff_of_separated hcut menu_wellSpelt.shortNames hread (by decide)]
    rintro ⟨next, hnext⟩
    cases hnext

end Vocabulary

end ClassExpr
