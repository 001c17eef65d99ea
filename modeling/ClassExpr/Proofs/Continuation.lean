/-
How a reading can go on.

From every state some plain tokens lead to the end of a class expression.  A
refusal names what its phase accepts, with one exception: behind an individual
of an enumeration it names the connectives, and neither of them can stand
there.
-/
import ClassExpr.Proofs.Sentinel

namespace ClassExpr

variable {names : NameTable}

/-- Two readings in a row succeed only if both do. -/
theorem exists_of_bind_eq_ok {ε α β : Type} {first : Except ε α} {second : α → Except ε β}
    {result : β} (hresult : first.bind second = .ok result) :
    ∃ middle, first = .ok middle ∧ second middle = .ok result := by
  cases first with
  | error fault => cases hresult
  | ok middle => exact ⟨middle, rfl, hresult⟩

namespace ParseState

/-- The state after some tokens, or the first refusal. -/
def readAll (names : NameTable) : ParseState → List Token → Except Expectations ParseState
  | state, [] => .ok state
  | state, token :: rest =>
    match state.step names token with
    | .error expectations => .error expectations
    | .ok next => readAll names next rest

theorem readAll_cons_of_step {state next : ParseState} {token : Token}
    (hstep : state.step names token = .ok next) (rest : List Token) :
    state.readAll names (token :: rest) = next.readAll names rest := by
  rw [readAll, hstep]

theorem exists_step_of_readAll {state last : ParseState} {token : Token} {rest : List Token}
    (hread : state.readAll names (token :: rest) = .ok last) :
    ∃ next, state.step names token = .ok next ∧ next.readAll names rest = .ok last := by
  cases hstep : state.step names token with
  | error expectations => rw [readAll, hstep] at hread; cases hread
  | ok next => exact ⟨next, rfl, by rwa [readAll_cons_of_step hstep] at hread⟩

theorem readAll_append (state : ParseState) (before after : List Token) :
    state.readAll names (before ++ after) =
      (state.readAll names before).bind fun next => next.readAll names after := by
  induction before generalizing state with
  | nil => rfl
  | cons token rest ih =>
      rw [List.cons_append, readAll, readAll]
      cases state.step names token with
      | error expectations => rfl
      | ok next => exact ih next

/-- What was read before a state is reached does not matter for the rest. -/
theorem run_append (state : ParseState) (before after : List Token) :
    state.run names (before ++ after) =
      (state.readAll names before).bind fun next => next.run names after := by
  induction before generalizing state with
  | nil => rfl
  | cons token rest ih =>
      rw [List.cons_append, readAll, run]
      cases state.step names token with
      | error expectations => rfl
      | ok next => exact ih next

theorem exists_readAll_of_run {state : ParseState} {before after : List Token}
    (hrun : state.run names (before ++ after) = .ok ()) :
    ∃ next, state.readAll names before = .ok next ∧ next.run names after = .ok () := by
  rw [run_append] at hrun
  exact exists_of_bind_eq_ok hrun

theorem exists_readAll_append {state last : ParseState} {before after : List Token}
    (hread : state.readAll names (before ++ after) = .ok last) :
    ∃ next, state.readAll names before = .ok next ∧ next.readAll names after = .ok last := by
  rw [readAll_append] at hread
  exact exists_of_bind_eq_ok hread

/-- The keywords that a refusal names can stand there, except behind an
individual of an enumeration. -/
theorem exists_step_of_keyword (hfree : names.Unreserved) {state : ParseState} {word : Token}
    (hphase : state.phase ≠ .memberEnd) (hword : word ∈ state.phase.expectations.keywords) :
    ∃ next, state.step names word = .ok next := by
  obtain ⟨phase, depth⟩ := state
  have hbegin : beginOperand names depth Keyword.not.word = .ok ⟨.operand, depth⟩ :=
    (beginOperand_eq_ok_iff hfree).2 (by simp)
  cases phase with
  | operand =>
      obtain rfl : word = Keyword.not.word := List.mem_singleton.1 hword
      exact ⟨_, hbegin⟩
  | objectFiller =>
      obtain rfl : word = Keyword.not.word := List.mem_singleton.1 hword
      exact ⟨_, hbegin⟩
  | complete =>
      have hconnective : word = Keyword.and.word ∨ word = Keyword.or.word := by
        simpa [Phase.expectations] using hword
      exact ⟨_, afterOperand_eq_ok_iff.2 (Or.inl ⟨hconnective, rfl⟩)⟩
  | objectRestriction =>
      simp only [Phase.expectations, List.mem_cons, List.not_mem_nil, or_false] at hword
      rcases hword with rfl | rfl | rfl | rfl | rfl | rfl <;> exact ⟨_, rfl⟩
  | dataRestriction =>
      simp only [Phase.expectations, List.mem_cons, List.not_mem_nil, or_false] at hword
      rcases hword with rfl | rfl | rfl | rfl | rfl | rfl <;> exact ⟨_, rfl⟩
  | literal =>
      simp only [Phase.expectations, List.mem_cons, List.not_mem_nil, or_false] at hword
      rcases hword with rfl | rfl <;> exact ⟨_, rfl⟩
  | memberEnd => exact absurd rfl hphase
  | _ => simp [Phase.expectations] at hword

/-- Behind an individual of an enumeration no keyword can stand. -/
theorem step_memberEnd_keyword {state : ParseState} (hphase : state.phase = .memberEnd)
    (keyword : Keyword) :
    state.step names keyword.word = .error Phase.memberEnd.expectations := by
  rw [step, hphase]
  cases keyword <;> rfl

theorem exists_beginOperand_of_kind (hfree : names.Unreserved) {kind : EntityKind}
    {word : Token} (hkind : Phase.operand.expectations.kinds.contains kind = true)
    (hname : names.kind? word = some kind) (depth : Nat) :
    ∃ next, beginOperand names depth word = .ok next := by
  simp only [beginOperand_eq_ok_iff hfree]
  cases kind with
  | cls => exact ⟨⟨.complete, depth⟩, by simp [hname]⟩
  | objectProperty => exact ⟨⟨.objectRestriction, depth⟩, by simp [hname]⟩
  | dataProperty => exact ⟨⟨.dataRestriction, depth⟩, by simp [hname]⟩
  | individual => exact absurd hkind (by decide)
  | datatype => exact absurd hkind (by decide)

/-- A name of a kind that a refusal names can stand there. -/
theorem exists_step_of_kind (hfree : names.Unreserved) {state : ParseState} {kind : EntityKind}
    {word : Token} (hkind : state.phase.expectations.kinds.contains kind = true)
    (hname : names.kind? word = some kind) : ∃ next, state.step names word = .ok next := by
  obtain ⟨phase, depth⟩ := state
  have hends := hfree.endsOperand_of_kind? hname
  have hdatatype : Phase.datatype.expectations.kinds.contains kind = true → kind = .datatype := by
    cases kind <;> decide
  have hindividual :
      Phase.individual.expectations.kinds.contains kind = true → kind = .individual := by
    cases kind <;> decide
  cases phase with
  | operand => exact exists_beginOperand_of_kind hfree hkind hname depth
  | objectFiller =>
      obtain ⟨next, hnext⟩ := exists_beginOperand_of_kind hfree hkind hname depth
      exact ⟨next, by simp [step, hends, hnext]⟩
  | dataFiller =>
      obtain rfl := hdatatype hkind
      exact ⟨⟨.complete, depth⟩, by simp [step, hends, name, hname]⟩
  | datatype =>
      obtain rfl := hdatatype hkind
      exact ⟨_, name_eq_ok_iff.2 ⟨hname, rfl⟩⟩
  | individual =>
      obtain rfl := hindividual hkind
      exact ⟨_, name_eq_ok_iff.2 ⟨hname, rfl⟩⟩
  | member =>
      obtain rfl := hindividual hkind
      exact ⟨_, name_eq_ok_iff.2 ⟨hname, rfl⟩⟩
  | _ => exact absurd hkind (by cases kind <;> simp [Phase.expectations, KindSet.contains])

/-- Plain tokens lead from one state to another. -/
def Reaches (names : NameTable) (state target : ParseState) : Prop :=
  ∃ tokens, (∀ token ∈ tokens, token.IsPlain) ∧ state.readAll names tokens = .ok target

theorem Reaches.refl (state : ParseState) : state.Reaches names state :=
  ⟨[], by simp, rfl⟩

theorem Reaches.head {state next target : ParseState} {token : Token} (htoken : token.IsPlain)
    (hstep : state.step names token = .ok next) (hreaches : next.Reaches names target) :
    state.Reaches names target := by
  obtain ⟨tokens, htokens, hread⟩ := hreaches
  refine ⟨token :: tokens, ?_, ?_⟩
  · rintro other (_ | ⟨_, hother⟩)
    · exact htoken
    · exact htokens other hother
  · rw [readAll_cons_of_step hstep, hread]

/-- Every operand can be completed: each kind has a name, and one is a
cardinality. -/
theorem reaches_complete (hspelt : names.WellSpelt) (phase : Phase) (depth : Nat) :
    Reaches names ⟨phase, depth⟩ ⟨.complete, depth⟩ := by
  have hfree := hspelt.unreserved
  have hplain : ∀ {name kind}, names.kind? name = some kind → Token.IsPlain name :=
    fun hkind => Or.inl (hspelt.proper _ _ hkind).1
  have hword : ∀ keyword : Keyword, keyword.word.IsPlain := by
    intro keyword
    refine Or.inl ?_
    cases keyword <;> decide
  have hone : Token.IsPlain ['1'] := Or.inl (by decide)
  have hmark : Token.IsPlain Token.closeSet := Or.inr ⟨_, rfl, by decide⟩
  obtain ⟨cls, hcls⟩ := hspelt.inhabited .cls
  obtain ⟨individual, hindividual⟩ := hspelt.inhabited .individual
  obtain ⟨datatype, hdatatype⟩ := hspelt.inhabited .datatype
  have hclsEnds := hfree.endsOperand_of_kind? hcls
  have hdatatypeEnds := hfree.endsOperand_of_kind? hdatatype
  have hcomplete : Reaches names ⟨.complete, depth⟩ ⟨.complete, depth⟩ := Reaches.refl _
  have hbegin : beginOperand names depth cls = .ok ⟨.complete, depth⟩ :=
    (beginOperand_eq_ok_iff hfree).2 (by simp [hcls])
  have hobjectFiller : Reaches names ⟨.objectFiller, depth⟩ ⟨.complete, depth⟩ :=
    hcomplete.head (hplain hcls) (by simp [step, hclsEnds, hbegin])
  have hdataFiller : Reaches names ⟨.dataFiller, depth⟩ ⟨.complete, depth⟩ :=
    hcomplete.head (hplain hdatatype) (by simp [step, hdatatypeEnds, name, hdatatype])
  have hvalue : Reaches names ⟨.individual, depth⟩ ⟨.complete, depth⟩ :=
    hcomplete.head (hplain hindividual) (name_eq_ok_iff.2 ⟨hindividual, rfl⟩)
  have hliteral : Reaches names ⟨.literal, depth⟩ ⟨.complete, depth⟩ :=
    hcomplete.head (hword .true) rfl
  have hmemberEnd : Reaches names ⟨.memberEnd, depth⟩ ⟨.complete, depth⟩ :=
    hcomplete.head hmark rfl
  -- Every other phase is one token away from one of these.
  cases phase with
  | operand => exact hcomplete.head (hplain hcls) hbegin
  | complete => exact hcomplete
  | objectRestriction => exact hvalue.head (hword .value) rfl
  | dataRestriction => exact hliteral.head (hword .value) rfl
  | objectCount => exact hobjectFiller.head hone rfl
  | dataCount => exact hdataFiller.head hone rfl
  | objectFiller => exact hobjectFiller
  | dataFiller => exact hdataFiller
  | individual => exact hvalue
  | datatype => exact hcomplete.head (hplain hdatatype) (name_eq_ok_iff.2 ⟨hdatatype, rfl⟩)
  | literal => exact hliteral
  | member => exact hmemberEnd.head (hplain hindividual) (name_eq_ok_iff.2 ⟨hindividual, rfl⟩)
  | memberEnd => exact hmemberEnd

theorem run_replicate_closeGroup (depth : Nat) :
    run names ⟨.complete, depth⟩ (List.replicate depth Token.closeGroup) = .ok () := by
  induction depth with
  | zero => rfl
  | succ depth ih =>
      have hclose : step names ⟨.complete, depth + 1⟩ Token.closeGroup =
          .ok ⟨.complete, depth⟩ :=
        afterOperand_eq_ok_iff.2 (Or.inr ⟨rfl, depth, rfl, rfl⟩)
      rw [List.replicate_succ, run_cons_of_step hclose, ih]

/-- No state is a dead end: the operand is completed, then the open groups are
closed. -/
theorem exists_run_eq_ok (hspelt : names.WellSpelt) (state : ParseState) :
    ∃ tokens, (∀ token ∈ tokens, token.IsPlain) ∧ state.run names tokens = .ok () := by
  obtain ⟨tokens, htokens, hread⟩ := reaches_complete hspelt state.phase state.depth
  refine ⟨tokens ++ List.replicate state.depth Token.closeGroup, ?_, ?_⟩
  · intro token htoken
    rcases List.mem_append.1 htoken with hmem | hmem
    · exact htokens token hmem
    · obtain rfl := List.eq_of_mem_replicate hmem
      exact Or.inr ⟨_, rfl, by decide⟩
  · rw [run_append, hread]
    exact run_replicate_closeGroup state.depth

end ParseState

/-- The tokens end right behind an individual of an enumeration that is still
open. -/
def AfterMember (names : NameTable) (tokens : List Token) : Prop :=
  ∃ front members, tokens = front ++ Token.openSet :: members ∧
    Derives names .individuals members

theorem AfterMember.concat {tokens : List Token} {name : Token}
    (hafter : AfterMember names tokens) (hname : names.kind? name = some .individual) :
    AfterMember names (tokens ++ [Token.comma] ++ [name]) := by
  obtain ⟨front, members, rfl, hmembers⟩ := hafter
  exact ⟨front, members ++ [Token.comma, name], by simp, .comma hmembers hname⟩

/-- The last token behind which an enumeration is open is an individual. -/
theorem AfterMember.exists_concat {tokens : List Token} (hafter : AfterMember names tokens) :
    ∃ init name, tokens = init ++ [name] ∧ names.kind? name = some .individual := by
  obtain ⟨front, members, rfl, hmembers⟩ := hafter
  cases hmembers with
  | individual hname => exact ⟨front ++ [Token.openSet], _, by simp, hname⟩
  | @comma others name _ hname =>
      exact ⟨front ++ Token.openSet :: (others ++ [Token.comma]), name, by simp, hname⟩

/-- The phases between the marks of an enumeration. -/
def Phase.inEnumeration : Phase → Bool
  | .member | .memberEnd => true
  | _ => false

/-- What an accepted token was read as, and whether it leads into an
enumeration. -/
inductive ReadAs (names : NameTable) (phase : Phase) (token : Token) (next : Phase) : Prop where
  | keyword (keyword : Keyword) :
      token = keyword.word → next.inEnumeration = false → ReadAs names phase token next
  | mark :
      token ∈ [Token.openGroup, Token.closeGroup, Token.closeSet] →
        next.inEnumeration = false → ReadAs names phase token next
  | name (kind : EntityKind) :
      names.kind? token = some kind → next.inEnumeration = false → ReadAs names phase token next
  | cardinality :
      token.isCardinality = true → next.inEnumeration = false → ReadAs names phase token next
  | literal :
      phase = .literal → token.isLiteral = true → next.inEnumeration = false →
        ReadAs names phase token next
  | openSet : token = Token.openSet → next = .member → ReadAs names phase token next
  | comma :
      phase = .memberEnd → token = Token.comma → next = .member → ReadAs names phase token next
  | member :
      phase = .member → names.kind? token = some .individual → next = .memberEnd →
        ReadAs names phase token next

namespace ParseState

theorem beginOperand_readAs (hfree : names.Unreserved) {phase : Phase} {depth : Nat}
    {token : Token} {next : ParseState} (hstep : beginOperand names depth token = .ok next) :
    ReadAs names phase token next.phase := by
  rcases (beginOperand_eq_ok_iff hfree).1 hstep with
    ⟨htoken, rfl⟩ | ⟨rfl, rfl⟩ | ⟨htoken, rfl⟩ | ⟨hname, rfl⟩ | ⟨hname, rfl⟩ | ⟨hname, rfl⟩
  · exact .keyword .not htoken rfl
  · exact .mark (by decide) rfl
  · exact .openSet htoken rfl
  · exact .name .cls hname rfl
  · exact .name .objectProperty hname rfl
  · exact .name .dataProperty hname rfl

theorem afterOperand_readAs {phase : Phase} {depth : Nat} {token : Token} {next : ParseState}
    (hstep : afterOperand depth token = .ok next) : ReadAs names phase token next.phase := by
  rcases afterOperand_eq_ok_iff.1 hstep with ⟨htoken | htoken, rfl⟩ | ⟨rfl, _, _, rfl⟩
  · exact .keyword .and htoken rfl
  · exact .keyword .or htoken rfl
  · exact .mark (by decide) rfl

theorem restriction_readAs {phase filler value count : Phase} {depth : Nat} {token : Token}
    {next : ParseState} (hfiller : filler.inEnumeration = false)
    (hvalue : value.inEnumeration = false) (hcount : count.inEnumeration = false)
    (hstep : restriction phase filler value count depth token = .ok next) :
    ReadAs names phase token next.phase := by
  rcases restriction_eq_ok_iff.1 hstep with
    ⟨hquantifier, rfl⟩ | ⟨htoken, rfl⟩ | ⟨hbound, rfl⟩
  · simp only [Token.isQuantifier, Bool.or_eq_true, beq_iff_eq] at hquantifier
    rcases hquantifier with htoken | htoken
    · exact .keyword .some htoken hfiller
    · exact .keyword .only htoken hfiller
  · exact .keyword .value htoken hvalue
  · simp only [Token.isBound, Bool.or_eq_true, beq_iff_eq] at hbound
    rcases hbound with (htoken | htoken) | htoken
    · exact .keyword .min htoken hcount
    · exact .keyword .max htoken hcount
    · exact .keyword .exactly htoken hcount

theorem step_readAs (hfree : names.Unreserved) {state next : ParseState} {token : Token}
    (hstep : state.step names token = .ok next) :
    ReadAs names state.phase token next.phase := by
  obtain ⟨phase, depth⟩ := state
  cases phase with
  | operand => exact beginOperand_readAs hfree hstep
  | complete => exact afterOperand_readAs hstep
  | objectRestriction => exact restriction_readAs rfl rfl rfl hstep
  | dataRestriction => exact restriction_readAs rfl rfl rfl hstep
  | objectCount =>
      obtain ⟨hcount, rfl⟩ := count_eq_ok_iff.1 hstep
      exact .cardinality hcount rfl
  | dataCount =>
      obtain ⟨hcount, rfl⟩ := count_eq_ok_iff.1 hstep
      exact .cardinality hcount rfl
  | objectFiller =>
      simp only [step] at hstep
      split at hstep
      · exact afterOperand_readAs hstep
      · exact beginOperand_readAs hfree hstep
  | dataFiller =>
      simp only [step] at hstep
      split at hstep
      · exact afterOperand_readAs hstep
      · obtain ⟨hname, rfl⟩ := name_eq_ok_iff.1 hstep
        exact .name .datatype hname rfl
  | individual =>
      obtain ⟨hname, rfl⟩ := name_eq_ok_iff.1 hstep
      exact .name .individual hname rfl
  | datatype =>
      obtain ⟨hname, rfl⟩ := name_eq_ok_iff.1 hstep
      exact .name .datatype hname rfl
  | literal =>
      simp only [step] at hstep
      split at hstep
      · rename_i hliteral
        cases hstep
        exact .literal rfl hliteral rfl
      · cases hstep
  | member =>
      obtain ⟨hname, rfl⟩ := name_eq_ok_iff.1 hstep
      exact .member rfl hname rfl
  | memberEnd =>
      simp only [step] at hstep
      split at hstep
      · rename_i htoken
        cases hstep
        exact .comma rfl htoken rfl
      · split at hstep
        · subst token
          cases hstep
          exact .mark (by decide) rfl
        · cases hstep

/-- The mark of an enumeration is never read as anything else. -/
theorem phase_of_step_openSet (hfree : names.Unreserved) {state next : ParseState}
    (hstep : state.step names Token.openSet = .ok next) : next.phase = .member := by
  have hnone : names.kind? Token.openSet = none := hfree _ (by decide)
  cases step_readAs hfree hstep with
  | keyword keyword htoken => cases keyword <;> exact absurd htoken (by decide)
  | mark hmark => exact absurd hmark (by decide)
  | name kind hname => rw [hnone] at hname; cases hname
  | cardinality hcount => exact absurd hcount (by decide)
  | literal _ hliteral => exact absurd hliteral (by decide)
  | openSet _ hnext => exact hnext
  | comma _ _ hnext => exact hnext
  | member _ hname => rw [hnone] at hname; cases hname

/-- A quoted token is never read as anything but a literal. -/
theorem phase_of_step_quoted (hspelt : names.WellSpelt) {state next : ParseState}
    {inner : Text} (hstep : state.step names ('"' :: inner) = .ok next) :
    state.phase = .literal := by
  have hnone := hspelt.kind?_quote inner
  cases step_readAs hspelt.unreserved hstep with
  | keyword keyword htoken => cases keyword <;> simp [Keyword.word] at htoken
  | mark hmark => simp [Token.openGroup, Token.closeGroup, Token.closeSet] at hmark
  | name kind hname => rw [hnone] at hname; cases hname
  | cardinality hcount =>
      have hdigit : Char.isDigit '"' = false := by decide
      simp [Token.isCardinality, Text.cardinality?, Text.decimal?, hdigit] at hcount
  | literal hphase => exact hphase
  | openSet htoken => simp [Token.openSet] at htoken
  | comma _ htoken => simp [Token.comma] at htoken
  | member _ hname => rw [hnone] at hname; cases hname

/-- In a phase of an enumeration the tokens that were read end inside one. -/
def Trails (names : NameTable) (state : ParseState) (read : List Token) : Prop :=
  (state.phase = .member → (∃ front, read = front ++ [Token.openSet]) ∨
    ∃ front, AfterMember names front ∧ read = front ++ [Token.comma]) ∧
  (state.phase = .memberEnd → AfterMember names read)

theorem trails_of_inEnumeration_eq_false {state : ParseState} {read : List Token}
    (hphase : state.phase.inEnumeration = false) : state.Trails names read := by
  constructor <;> intro hmember <;> simp [hmember, Phase.inEnumeration] at hphase

theorem Trails.step (hfree : names.Unreserved) {state next : ParseState} {token : Token}
    {read : List Token} (htrails : state.Trails names read)
    (hstep : state.step names token = .ok next) : next.Trails names (read ++ [token]) := by
  cases step_readAs hfree hstep with
  | keyword _ _ hnext => exact trails_of_inEnumeration_eq_false hnext
  | mark _ hnext => exact trails_of_inEnumeration_eq_false hnext
  | name _ _ hnext => exact trails_of_inEnumeration_eq_false hnext
  | cardinality _ hnext => exact trails_of_inEnumeration_eq_false hnext
  | literal _ _ hnext => exact trails_of_inEnumeration_eq_false hnext
  | openSet htoken hnext =>
      subst htoken
      refine ⟨fun _ => Or.inl ⟨read, rfl⟩, fun hmemberEnd => ?_⟩
      rw [hnext] at hmemberEnd
      cases hmemberEnd
  | comma hphase htoken hnext =>
      subst htoken
      refine ⟨fun _ => Or.inr ⟨read, htrails.2 hphase, rfl⟩, fun hmemberEnd => ?_⟩
      rw [hnext] at hmemberEnd
      cases hmemberEnd
  | member hphase hname hnext =>
      refine ⟨fun hmember => ?_, fun _ => ?_⟩
      · rw [hnext] at hmember
        cases hmember
      · rcases htrails.1 hphase with ⟨front, rfl⟩ | ⟨front, hafter, rfl⟩
        · exact ⟨front, [token], by simp, .individual hname⟩
        · exact hafter.concat hname

theorem Trails.readAll (hfree : names.Unreserved) {state last : ParseState}
    {read tokens : List Token} (htrails : state.Trails names read)
    (hread : state.readAll names tokens = .ok last) : last.Trails names (read ++ tokens) := by
  induction tokens generalizing state read with
  | nil =>
      cases hread
      simpa using htrails
  | cons token rest ih =>
      obtain ⟨next, hstep, hrest⟩ := exists_step_of_readAll hread
      have hnext := ih (htrails.step hfree hstep) hrest
      simpa using hnext

theorem readAll_individuals {members : List Token} (hmembers : Derives names .individuals members)
    (depth : Nat) : readAll names ⟨.member, depth⟩ members = .ok ⟨.memberEnd, depth⟩ := by
  generalize hphrase : Phrase.individuals = phrase at hmembers
  induction hmembers with
  | individual hname =>
      have hstep : step names ⟨.member, depth⟩ _ = .ok ⟨.memberEnd, depth⟩ :=
        name_eq_ok_iff.2 ⟨hname, rfl⟩
      rw [readAll_cons_of_step hstep, readAll]
  | @comma members name _ hname ih =>
      have hcomma : step names ⟨.memberEnd, depth⟩ Token.comma = .ok ⟨.member, depth⟩ := rfl
      have hstep : step names ⟨.member, depth⟩ name = .ok ⟨.memberEnd, depth⟩ :=
        name_eq_ok_iff.2 ⟨hname, rfl⟩
      rw [readAll_append, ih hphrase]
      exact (readAll_cons_of_step hcomma _).trans (readAll_cons_of_step hstep _)
  | _ => cases hphrase

/-- The phase tells whether a reading stands behind an individual of an open
enumeration. -/
theorem phase_eq_memberEnd_iff (hfree : names.Unreserved) {tokens : List Token}
    {state : ParseState} (hread : start.readAll names tokens = .ok state) :
    state.phase = .memberEnd ↔ AfterMember names tokens := by
  constructor
  · intro hphase
    have hstart : start.Trails names [] := trails_of_inEnumeration_eq_false rfl
    exact (hstart.readAll hfree hread).2 hphase
  · -- Whatever state the opening mark meets, it leads to the individuals or is refused.
    rintro ⟨front, members, rfl, hmembers⟩
    obtain ⟨before, _, hrest⟩ := exists_readAll_append hread
    obtain ⟨⟨phase, depth⟩, hopen, hinside⟩ := exists_step_of_readAll hrest
    obtain rfl : phase = .member := phase_of_step_openSet hfree hopen
    rw [readAll_individuals hmembers] at hinside
    cases hinside
    rfl

end ParseState

end ClassExpr
