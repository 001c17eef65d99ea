/-
Whether every word that can follow a text is offered behind it.

A state accepts a word because its refusals name it, with one exception: behind
a cardinality the filler is optional, and a connective may follow at once, but
a refusal there names only what begins a filler.  So a word that can follow is
offered, unless it is a connective right behind a cardinality.
-/
import ClassExpr.Proofs.Viability

namespace ClassExpr

variable {names : NameTable}

/-- The phases behind the keyword of a cardinality. -/
def Phase.isCount : Phase → Bool
  | .objectCount | .dataCount => true
  | _ => false

/-- The phases behind a cardinality. -/
def Phase.isFiller : Phase → Bool
  | .objectFiller | .dataFiller => true
  | _ => false

def Token.marks : List Token :=
  [Token.openGroup, Token.closeGroup, Token.openSet, Token.closeSet, Token.comma]

/-- Why a phase accepts a token, and which cardinality the next phase is about.
In all cases but the last the token is a mark, a number or a literal, or a
refusal would have named it. -/
inductive AcceptedAs (names : NameTable) (phase : Phase) (token : Token) (next : Phase) :
    Prop where
  | keyword :
      token ∈ phase.expectations.keywords → next.isCount = token.isBound →
        next.isFiller = false → AcceptedAs names phase token next
  | name (kind : EntityKind) :
      phase.expectations.kinds.contains kind = true → names.kind? token = some kind →
        next.isCount = false → next.isFiller = false → AcceptedAs names phase token next
  | mark :
      token ∈ Token.marks → next.isCount = false → next.isFiller = false →
        AcceptedAs names phase token next
  | cardinality :
      phase.isCount = true → token.isCardinality = true → next.isCount = false →
        next.isFiller = true → AcceptedAs names phase token next
  | literal :
      phase = .literal → token.isLiteral = true → next = .complete →
        AcceptedAs names phase token next
  | connective :
      phase.isFiller = true → token = Keyword.and.word ∨ token = Keyword.or.word →
        next = .operand → AcceptedAs names phase token next

namespace ParseState

theorem beginOperand_acceptedAs (hfree : names.Unreserved) {phase : Phase} {depth : Nat}
    {token : Token} {next : ParseState}
    (hphase : phase.expectations = Phase.operand.expectations)
    (hstep : beginOperand names depth token = .ok next) :
    AcceptedAs names phase token next.phase := by
  rcases (beginOperand_eq_ok_iff hfree).1 hstep with
    ⟨rfl, rfl⟩ | ⟨rfl, rfl⟩ | ⟨rfl, rfl⟩ | ⟨hname, rfl⟩ | ⟨hname, rfl⟩ | ⟨hname, rfl⟩
  · exact .keyword (by rw [hphase]; decide) rfl rfl
  · exact .mark (by decide) rfl rfl
  · exact .mark (by decide) rfl rfl
  · exact .name .cls (by rw [hphase]; decide) hname rfl rfl
  · exact .name .objectProperty (by rw [hphase]; decide) hname rfl rfl
  · exact .name .dataProperty (by rw [hphase]; decide) hname rfl rfl

theorem restriction_acceptedAs {phase filler value count : Phase} {depth : Nat} {token : Token}
    {next : ParseState} (hphase : phase.expectations = Phase.objectRestriction.expectations)
    (hfiller : filler.isCount = false ∧ filler.isFiller = false)
    (hvalue : value.isCount = false ∧ value.isFiller = false)
    (hcount : count.isCount = true ∧ count.isFiller = false)
    (hstep : restriction phase filler value count depth token = .ok next) :
    AcceptedAs names phase token next.phase := by
  rcases restriction_eq_ok_iff.1 hstep with ⟨hquantifier, rfl⟩ | ⟨rfl, rfl⟩ | ⟨hbound, rfl⟩
  · simp only [Token.isQuantifier, Bool.or_eq_true, beq_iff_eq] at hquantifier
    rcases hquantifier with rfl | rfl <;>
      exact .keyword (by rw [hphase]; decide) hfiller.1 hfiller.2
  · exact .keyword (by rw [hphase]; decide) hvalue.1 hvalue.2
  · have hbound' := hbound
    simp only [Token.isBound, Bool.or_eq_true, beq_iff_eq] at hbound'
    refine .keyword ?_ (hcount.1.trans hbound.symm) hcount.2
    rw [hphase]
    rcases hbound' with (rfl | rfl) | rfl <;> decide

/-- Every accepted token is accepted for one of the listed reasons. -/
theorem step_acceptedAs (hfree : names.Unreserved) {state next : ParseState} {token : Token}
    (hstep : state.step names token = .ok next) :
    AcceptedAs names state.phase token next.phase := by
  obtain ⟨phase, depth⟩ := state
  have hclose : Token.closeGroup ∈ Token.marks := by decide
  have hand : Keyword.and.word ∈ Phase.complete.expectations.keywords := by decide
  have hor : Keyword.or.word ∈ Phase.complete.expectations.keywords := by decide
  cases phase with
  | operand => exact beginOperand_acceptedAs hfree rfl hstep
  | complete =>
      rcases afterOperand_eq_ok_iff.1 hstep with ⟨rfl | rfl, rfl⟩ | ⟨rfl, _, _, rfl⟩
      · exact .keyword hand rfl rfl
      · exact .keyword hor rfl rfl
      · exact .mark hclose rfl rfl
  | objectRestriction =>
      exact restriction_acceptedAs rfl ⟨rfl, rfl⟩ ⟨rfl, rfl⟩ ⟨rfl, rfl⟩ hstep
  | dataRestriction =>
      exact restriction_acceptedAs rfl ⟨rfl, rfl⟩ ⟨rfl, rfl⟩ ⟨rfl, rfl⟩ hstep
  | objectCount =>
      obtain ⟨hcount, rfl⟩ := count_eq_ok_iff.1 hstep
      exact .cardinality rfl hcount rfl rfl
  | dataCount =>
      obtain ⟨hcount, rfl⟩ := count_eq_ok_iff.1 hstep
      exact .cardinality rfl hcount rfl rfl
  | objectFiller =>
      simp only [step] at hstep
      split at hstep
      · rcases afterOperand_eq_ok_iff.1 hstep with ⟨hconnective, rfl⟩ | ⟨rfl, _, _, rfl⟩
        · exact .connective rfl hconnective rfl
        · exact .mark hclose rfl rfl
      · exact beginOperand_acceptedAs hfree rfl hstep
  | dataFiller =>
      simp only [step] at hstep
      split at hstep
      · rcases afterOperand_eq_ok_iff.1 hstep with ⟨hconnective, rfl⟩ | ⟨rfl, _, _, rfl⟩
        · exact .connective rfl hconnective rfl
        · exact .mark hclose rfl rfl
      · obtain ⟨hname, rfl⟩ := name_eq_ok_iff.1 hstep
        exact .name .datatype rfl hname rfl rfl
  | individual =>
      obtain ⟨hname, rfl⟩ := name_eq_ok_iff.1 hstep
      exact .name .individual rfl hname rfl rfl
  | datatype =>
      obtain ⟨hname, rfl⟩ := name_eq_ok_iff.1 hstep
      exact .name .datatype rfl hname rfl rfl
  | member =>
      obtain ⟨hname, rfl⟩ := name_eq_ok_iff.1 hstep
      exact .name .individual rfl hname rfl rfl
  | literal =>
      simp only [step] at hstep
      split at hstep
      · rename_i hliteral
        cases hstep
        exact .literal rfl hliteral rfl
      · cases hstep
  | memberEnd =>
      simp only [step] at hstep
      split at hstep
      · subst token
        cases hstep
        exact .mark (by decide) rfl rfl
      · split at hstep
        · subst token
          cases hstep
          exact .mark (by decide) rfl rfl
        · cases hstep

theorem isBound_of_step (hfree : names.Unreserved) {state next : ParseState} {token : Token}
    (hstep : state.step names token = .ok next) (hcount : next.phase.isCount = true) :
    token.isBound = true := by
  cases step_acceptedAs hfree hstep with
  | keyword _ hbound _ => exact hbound.symm.trans hcount
  | name _ _ _ hnext _ => exact absurd hcount (by simp [hnext])
  | mark _ hnext _ => exact absurd hcount (by simp [hnext])
  | cardinality _ _ hnext _ => exact absurd hcount (by simp [hnext])
  | literal _ _ hnext => exact absurd hcount (by simp [hnext, Phase.isCount])
  | connective _ _ hnext => exact absurd hcount (by simp [hnext, Phase.isCount])

theorem isCardinality_of_step (hfree : names.Unreserved) {state next : ParseState}
    {token : Token} (hstep : state.step names token = .ok next)
    (hfiller : next.phase.isFiller = true) :
    state.phase.isCount = true ∧ token.isCardinality = true := by
  cases step_acceptedAs hfree hstep with
  | keyword _ _ hnext => exact absurd hfiller (by simp [hnext])
  | name _ _ _ _ hnext => exact absurd hfiller (by simp [hnext])
  | mark _ _ hnext => exact absurd hfiller (by simp [hnext])
  | cardinality hphase hcount _ _ => exact ⟨hphase, hcount⟩
  | literal _ _ hnext => exact absurd hfiller (by simp [hnext, Phase.isFiller])
  | connective _ _ hnext => exact absurd hfiller (by simp [hnext, Phase.isFiller])

theorem exists_step_of_readAll_concat {state last : ParseState} {tokens : List Token}
    {token : Token} (hread : state.readAll names (tokens ++ [token]) = .ok last) :
    ∃ next, state.readAll names tokens = .ok next ∧ next.step names token = .ok last := by
  obtain ⟨next, hnext, hrest⟩ := exists_readAll_append hread
  obtain ⟨final, hstep, hfinal⟩ := exists_step_of_readAll hrest
  cases hfinal
  exact ⟨next, hnext, hstep⟩

/-- The keyword of a cardinality is accepted only where a restriction begins. -/
theorem isCount_of_step_bound (hspelt : names.WellSpelt) {state next : ParseState}
    {token : Token} (hbound : token.isBound = true)
    (hstep : state.step names token = .ok next) : next.phase.isCount = true := by
  have hreserved : token ∈ [Keyword.min.word, Keyword.max.word, Keyword.exactly.word] := by
    simpa [Token.isBound, or_assoc] using hbound
  have hnone : names.kind? token = none := by
    apply hspelt.kind?_eq_none
    have himproper : ∀ word ∈ [Keyword.min.word, Keyword.max.word, Keyword.exactly.word],
        ¬ Token.IsProper word := by decide
    exact himproper token hreserved
  have hother : ∀ word ∈ [Keyword.min.word, Keyword.max.word, Keyword.exactly.word],
      word ∉ Token.marks ∧ word.isCardinality = false ∧ word.isLiteral = false ∧
        word ≠ Keyword.and.word ∧ word ≠ Keyword.or.word := by decide
  obtain ⟨hmark, hcount, hliteral, hand, hor⟩ := hother token hreserved
  cases step_acceptedAs hspelt.unreserved hstep with
  | keyword _ hnext _ => exact hnext.trans hbound
  | name _ _ hname => exact absurd hname (by simp [hnone])
  | mark hmem => exact absurd hmem hmark
  | cardinality _ hcardinality => exact absurd hcardinality (by simp [hcount])
  | literal _ hquoted => exact absurd hquoted (by simp [hliteral])
  | connective _ hconnective => exact absurd hconnective (by simp [hand, hor])

end ParseState

/-- The tokens end right behind a cardinality. -/
def AfterCardinality (tokens : List Token) : Prop :=
  ∃ front bound cardinality, tokens = front ++ [bound, cardinality] ∧
    bound.isBound = true ∧ cardinality.isCardinality = true

/-- The phase tells whether a reading stands behind a cardinality. -/
theorem ParseState.phase_isFiller_iff (hspelt : names.WellSpelt) {tokens : List Token}
    {state : ParseState} (hread : start.readAll names tokens = .ok state) :
    state.phase.isFiller = true ↔ AfterCardinality tokens := by
  have hfree := hspelt.unreserved
  constructor
  · -- The last two tokens are read back from the phase.
    intro hfiller
    rcases List.eq_nil_or_concat tokens with rfl | ⟨init, cardinality, rfl⟩
    · cases hread
      exact absurd hfiller (by decide)
    · rw [List.concat_eq_append] at hread ⊢
      obtain ⟨count, hcount, hlast⟩ := exists_step_of_readAll_concat hread
      obtain ⟨hphase, hcardinality⟩ := isCardinality_of_step hfree hlast hfiller
      rcases List.eq_nil_or_concat init with rfl | ⟨front, bound, rfl⟩
      · cases hcount
        exact absurd hphase (by decide)
      · rw [List.concat_eq_append] at hcount ⊢
        obtain ⟨_, _, hbound⟩ := exists_step_of_readAll_concat hcount
        exact ⟨front, bound, cardinality, by simp, isBound_of_step hfree hbound hphase,
          hcardinality⟩
  · rintro ⟨front, bound, cardinality, rfl, hbound, _⟩
    obtain ⟨_, _, hrest⟩ := exists_readAll_append hread
    obtain ⟨⟨phase, depth⟩, hfirst, hrest⟩ := exists_step_of_readAll hrest
    obtain ⟨last, hsecond, hlast⟩ := exists_step_of_readAll hrest
    cases hlast
    have hphase : phase.isCount = true := isCount_of_step_bound hspelt hbound hfirst
    cases phase with
    | objectCount =>
        obtain ⟨_, rfl⟩ := count_eq_ok_iff.1 hsecond
        rfl
    | dataCount =>
        obtain ⟨_, rfl⟩ := count_eq_ok_iff.1 hsecond
        rfl
    | _ => simp [Phase.isCount] at hphase

def Token.isNumber (token : Token) : Bool :=
  token.isCardinality || Text.isReal token

/-- A proper name that writes no number is no literal. -/
theorem Token.IsProper.isLiteral_eq_false {name : Token} (hproper : name.IsProper)
    (hnumber : name.isNumber = false) : name.isLiteral = false := by
  obtain ⟨hword, hreserved, _⟩ := hproper
  have hreal : Text.isReal name = false := by
    simp only [isNumber, Bool.or_eq_false_iff] at hnumber
    exact hnumber.2
  have htrue := hreserved .true (Keyword.mem_all _)
  have hfalse := hreserved .false (Keyword.mem_all _)
  have hquote : ¬ name.head? = some '"' := by
    intro hhead
    have hmem : '"' ∈ name := List.mem_of_mem_head? hhead
    exact absurd (hword.2 _ hmem) (by decide)
  simp [isLiteral, hreal, htrue, hfalse, hquote]

namespace Vocabulary

variable {vocabulary : Vocabulary} {before word : Text}

/-- A reserved word or the short form of an entity. -/
def HasWord (vocabulary : Vocabulary) (word : Text) : Prop :=
  (∃ keyword : Keyword, word = keyword.word) ∨ ∃ entity ∈ vocabulary, word = entity.short

/-- A word is among the candidates behind a text when nothing of it is typed
yet. -/
def Offers (vocabulary : Vocabulary) (before word : Text) : Prop :=
  ∃ expectations,
    Probe.ask ⟨vocabulary.shortNames.check, defaultSentinel⟩ before =
        .ok (.expected expectations) ∧
      ∃ candidate ∈ vocabulary.shortSource.gather [] expectations, candidate.insertion = word

/-- A phase expects a word: its refusals name the word or its kind. -/
def Expects (vocabulary : Vocabulary) (phase : Phase) (word : Text) : Prop :=
  word ∈ phase.expectations.keywords ∨
    ∃ entity ∈ vocabulary, phase.expectations.kinds.contains entity.kind = true ∧
      entity.short = word

theorem HasWord.isWord (hspelt : vocabulary.WellSpelt) (hword : vocabulary.HasWord word) :
    Token.IsWord word := by
  rcases hword with ⟨keyword, rfl⟩ | ⟨entity, hentity, rfl⟩
  · cases keyword <;> decide
  · exact (hspelt.proper entity hentity).1

/-- Between two tokens the candidates are the words that the phase expects. -/
theorem offers_iff_expects (hspelt : vocabulary.WellSpelt) (hcut : Token.Separated before)
    {state : ParseState}
    (hread : ParseState.start.readAll vocabulary.shortNames (Token.ofText before) = .ok state) :
    vocabulary.Offers before word ↔ vocabulary.Expects state.phase word := by
  have hasked := NameTable.ask_of_separated hcut hspelt.shortNames hread
  constructor
  · rintro ⟨expectations, hanswer, candidate, hcandidate, rfl⟩
    obtain rfl : state.phase.expectations = expectations := by
      simpa using hasked.symm.trans hanswer
    rcases CandidateSource.mem_gather_nil.1 hcandidate with
      ⟨keyword, hkeyword, rfl⟩ | ⟨entity, hentity, hkind, rfl⟩
    · exact Or.inl hkeyword
    · exact Or.inr ⟨entity, hentity, hkind, rfl⟩
  · intro hexpects
    refine ⟨state.phase.expectations, hasked, ?_⟩
    rcases hexpects with hkeyword | ⟨entity, hentity, hkind, rfl⟩
    · exact ⟨.keyword word, CandidateSource.mem_gather_nil.2 (Or.inl ⟨word, hkeyword, rfl⟩), rfl⟩
    · exact ⟨.ofEntity Entity.short entity,
        CandidateSource.mem_gather_nil.2 (Or.inr ⟨entity, hentity, hkind, rfl⟩), rfl⟩

/-- An accepted word is expected, or it is a connective behind a
cardinality. -/
theorem expects_or_connective (hspelt : vocabulary.WellSpelt)
    (hnumbers : ∀ entity ∈ vocabulary, Token.isNumber entity.short = false)
    (hword : vocabulary.HasWord word) {state next : ParseState}
    (hstep : state.step vocabulary.shortNames word = .ok next) :
    vocabulary.Expects state.phase word ∨
      state.phase.isFiller = true ∧ (word = Keyword.and.word ∨ word = Keyword.or.word) := by
  cases ParseState.step_acceptedAs hspelt.shortNames.unreserved hstep with
  | keyword hkeyword _ _ => exact Or.inl (Or.inl hkeyword)
  | name kind hkind hname _ _ =>
      obtain ⟨entity, hentity, hshort, rfl⟩ := NameTable.exists_of_kind?_ofVocabulary hname
      exact Or.inl (Or.inr ⟨entity, hentity, hkind, hshort⟩)
  | mark hmark _ _ =>
      have hmarks : ∀ mark ∈ Token.marks, ¬ Token.IsWord mark := by decide
      exact absurd (hword.isWord hspelt) (hmarks word hmark)
  | cardinality _ hcardinality _ _ =>
      rcases hword with ⟨keyword, rfl⟩ | ⟨entity, hentity, rfl⟩
      · cases keyword <;> exact absurd hcardinality (by decide)
      · have hnumber := hnumbers entity hentity
        simp [Token.isNumber, hcardinality] at hnumber
  | literal hphase hliteral _ =>
      left
      rcases hword with ⟨keyword, rfl⟩ | ⟨entity, hentity, rfl⟩
      · rw [hphase]
        cases keyword with
        | true => exact Or.inl (by decide)
        | false => exact Or.inl (by decide)
        | _ => exact absurd hliteral (by decide)
      · have hplain := (hspelt.proper entity hentity).isLiteral_eq_false (hnumbers entity hentity)
        exact absurd hliteral (by simp [hplain])
  | connective hfiller hconnective _ => exact Or.inr ⟨hfiller, hconnective⟩

/-- Behind a cardinality no connective is expected. -/
theorem not_expects_connective (hspelt : vocabulary.WellSpelt) {phase : Phase}
    (hfiller : phase.isFiller = true)
    (hconnective : word = Keyword.and.word ∨ word = Keyword.or.word) :
    ¬ vocabulary.Expects phase word := by
  rintro (hkeyword | ⟨entity, hentity, _, hshort⟩)
  · cases phase with
    | objectFiller => rcases hconnective with rfl | rfl <;> exact absurd hkeyword (by decide)
    | dataFiller => rcases hconnective with rfl | rfl <;> exact absurd hkeyword (by decide)
    | _ => simp [Phase.isFiller] at hfiller
  · obtain ⟨_, hreserved, _⟩ := hspelt.proper entity hentity
    rcases hconnective with rfl | rfl
    · exact hreserved .and (Keyword.mem_all _) hshort
    · exact hreserved .or (Keyword.mem_all _) hshort

/-- A word of the vocabulary that can follow a text is offered behind it,
except a connective right behind a cardinality, which is never offered. -/
theorem continuing_offered_iff (hspelt : vocabulary.WellSpelt)
    (hnumbers : ∀ entity ∈ vocabulary, Token.isNumber entity.short = false)
    (hboundary : Token.AtBoundary before) (hquotes : before.count '"' % 2 = 0)
    (hword : vocabulary.HasWord word)
    (hcontinues : vocabulary.shortNames.Continues before word) :
    vocabulary.Offers before word ↔
      ¬ (AfterCardinality (Token.ofText before) ∧
        (word = Keyword.and.word ∨ word = Keyword.or.word)) := by
  have hcut := hboundary.separated_of_even hquotes
  have hviable : vocabulary.shortNames.Viable before := by
    obtain ⟨rest, _, haccepted⟩ := hcontinues
    exact ⟨word ++ rest, by rwa [← List.append_assoc]⟩
  obtain ⟨state, hread⟩ := NameTable.exists_readAll_of_separated hcut hviable
  obtain ⟨next, hstep⟩ := (NameTable.continues_iff_of_separated hcut hspelt.shortNames hread
    (hword.isWord hspelt)).1 hcontinues
  rw [offers_iff_expects hspelt hcut hread,
    ← ParseState.phase_isFiller_iff hspelt.shortNames hread]
  constructor
  · rintro hexpects ⟨hfiller, hconnective⟩
    exact not_expects_connective hspelt hfiller hconnective hexpects
  · intro hother
    exact (expects_or_connective hspelt hnumbers hword hstep).resolve_right hother

/-- The filler of a cardinality in a group. -/
theorem continuing_offered_iff_filler :
    let before : Text := "Pizza and (hasTopping min 2 ".toList
    let word : Text := "hasPrice".toList
    menu.WellSpelt ∧ (∀ entity ∈ menu, Token.isNumber entity.short = false) ∧
      Token.AtBoundary before ∧ before.count '"' % 2 = 0 ∧ menu.HasWord word ∧
      menu.shortNames.Continues before word ∧
      (menu.Offers before word ↔
        ¬ (AfterCardinality (Token.ofText before) ∧
          (word = Keyword.and.word ∨ word = Keyword.or.word))) := by
  intro before word
  have hnumbers : ∀ entity ∈ menu, Token.isNumber entity.short = false := by decide
  have hboundary : Token.AtBoundary before := by decide
  have hquotes : before.count '"' % 2 = 0 := by decide
  have hword : menu.HasWord word :=
    Or.inr ⟨⟨.dataProperty, "menu#hasPrice".toList⟩, by decide, by decide⟩
  have hcontinues : menu.shortNames.Continues before word :=
    ⟨" some integer)".toList, Or.inr rfl, by decide⟩
  exact ⟨menu_wellSpelt, hnumbers, hboundary, hquotes, hword, hcontinues,
    continuing_offered_iff menu_wellSpelt hnumbers hboundary hquotes hword hcontinues⟩

/-- Behind the cardinality of a data property a connective can follow, but only
datatypes are offered. -/
theorem continuing_connective_not_offered :
    let before : Text := "hasPrice min 2 ".toList
    menu.WellSpelt ∧ (∀ entity ∈ menu, Token.isNumber entity.short = false) ∧
      Token.AtBoundary before ∧ before.count '"' % 2 = 0 ∧
      menu.HasWord Keyword.and.word ∧ menu.shortNames.Continues before Keyword.and.word ∧
      ¬ menu.Offers before Keyword.and.word := by
  intro before
  have hcut : Token.Separated before := Token.separated_of_pending rfl rfl
  have hread : ParseState.start.readAll menu.shortNames (Token.ofText before) =
      .ok ⟨.dataFiller, 0⟩ := rfl
  refine ⟨menu_wellSpelt, by decide, by decide, by decide, Or.inl ⟨.and, rfl⟩,
    ⟨" Pizza".toList, Or.inr rfl, by decide⟩, ?_⟩
  rw [offers_iff_expects menu_wellSpelt hcut hread]
  exact not_expects_connective menu_wellSpelt rfl (Or.inl rfl)

end Vocabulary

end ClassExpr
