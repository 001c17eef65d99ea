/-
The recogniser accepts exactly the class expressions.

What the recogniser has read is always the beginning of a class expression
that still lacks the rest of one operand and the marks of its open groups.
One step keeps this, so an accepted text is a class expression.  Conversely
the recogniser follows every derivation, because the token behind an operand
tells whether a cardinality has a filler.
-/
import ClassExpr.Grammar.Derivation

namespace ClassExpr

variable {names : NameTable}

/-- The tokens that the recogniser compares with before it looks up a name. -/
def Token.reserved : List Token :=
  [Keyword.not.word, Keyword.and.word, Keyword.or.word, Token.openGroup, Token.closeGroup,
   Token.openSet]

/-- No reserved token is also a name. -/
def NameTable.Unreserved (names : NameTable) : Prop :=
  ∀ token ∈ Token.reserved, names.kind? token = none

instance (names : NameTable) : Decidable names.Unreserved :=
  inferInstanceAs (Decidable (∀ token ∈ Token.reserved, names.kind? token = none))

theorem NameTable.Unreserved.ne_of_kind? (hfree : names.Unreserved) {name : Token}
    {kind : EntityKind} (hname : names.kind? name = some kind) (token : Token)
    (htoken : token ∈ Token.reserved) : name ≠ token := by
  rintro rfl
  rw [hfree name htoken] at hname
  contradiction

/-- No name ends an operand. -/
theorem NameTable.Unreserved.endsOperand_of_kind? (hfree : names.Unreserved) {name : Token}
    {kind : EntityKind} (hname : names.kind? name = some kind) :
    name.endsOperand = false := by
  have hand := hfree.ne_of_kind? hname Keyword.and.word (by decide)
  have hor := hfree.ne_of_kind? hname Keyword.or.word (by decide)
  have hclose := hfree.ne_of_kind? hname Token.closeGroup (by decide)
  simp [Token.endsOperand, hand, hor, hclose]

/-- A single name of the given kind. -/
def NameTable.IsName (names : NameTable) (kind : EntityKind) (tokens : List Token) : Prop :=
  ∃ name, tokens = [name] ∧ names.kind? name = some kind

namespace Derives

/-- An expression goes on with one more operand behind either connective. -/
theorem expression_append {left right : List Token} {connective : Token}
    (hconnective : connective = Keyword.and.word ∨ connective = Keyword.or.word)
    (hleft : Derives names .expression left) (hright : Derives names .primary right) :
    Derives names .expression (left ++ connective :: right) := by
  rcases hconnective with rfl | rfl
  · cases hleft with
    | ofConjunction hconjunction => exact .ofConjunction (.and hconjunction hright)
    | or hfirst hlast =>
        have hjoined := Derives.or hfirst (.and hlast hright)
        simpa using hjoined
  · exact .or hleft (.ofPrimary hright)

/-- A list of individuals also grows at its front. -/
theorem individuals_cons {members : List Token} {name : Token}
    (hname : names.kind? name = some .individual)
    (hmembers : Derives names .individuals members) :
    Derives names .individuals (name :: Token.comma :: members) := by
  generalize hphrase : Phrase.individuals = phrase at hmembers
  induction hmembers with
  | individual hlast =>
      exact .comma (.individual hname) hlast
  | comma _ hlast ih =>
      exact .comma (ih hphrase) hlast
  | _ => cases hphrase

end Derives

/-- The tokens that bring an operand to its end from within a phase. -/
def Phase.Finishes (names : NameTable) : Phase → List Token → Prop
  | .operand, tokens => Derives names .primary tokens
  | .complete, tokens => tokens = []
  | .objectRestriction, tokens => Derives names .objectRestriction tokens
  | .dataRestriction, tokens => Derives names .dataRestriction tokens
  | .objectCount, tokens =>
    ∃ count filler, tokens = count :: filler ∧ count.isCardinality = true ∧
      (filler = [] ∨ Derives names .primary filler)
  | .dataCount, tokens =>
    ∃ count filler, tokens = count :: filler ∧ count.isCardinality = true ∧
      (filler = [] ∨ names.IsName .datatype filler)
  | .objectFiller, tokens => tokens = [] ∨ Derives names .primary tokens
  | .dataFiller, tokens => tokens = [] ∨ names.IsName .datatype tokens
  | .individual, tokens => names.IsName .individual tokens
  | .datatype, tokens => names.IsName .datatype tokens
  | .literal, tokens => ∃ literal, tokens = [literal] ∧ literal.isLiteral = true
  | .member, tokens =>
    ∃ members, tokens = members ++ [Token.closeSet] ∧ Derives names .individuals members
  | .memberEnd, tokens =>
    tokens = [Token.closeSet] ∨
      ∃ members, tokens = Token.comma :: (members ++ [Token.closeSet]) ∧
        Derives names .individuals members

/-- The tokens end right behind an operand, with some groups open.  Each open
group stands where an operand has to begin. -/
def CompleteAt (names : NameTable) : Nat → List Token → Prop
  | 0, read => Derives names .expression read
  | depth + 1, read =>
    ∃ outer inner, read = outer ++ Token.openGroup :: inner ∧
      Derives names .expression inner ∧
      ∀ operand, Derives names .primary operand → CompleteAt names depth (outer ++ operand)

namespace CompleteAt

theorem connect {depth : Nat} {read operand : List Token} {connective : Token}
    (hconnective : connective = Keyword.and.word ∨ connective = Keyword.or.word)
    (hread : CompleteAt names depth read) (hoperand : Derives names .primary operand) :
    CompleteAt names depth (read ++ connective :: operand) := by
  cases depth with
  | zero => exact Derives.expression_append hconnective hread hoperand
  | succ depth =>
      obtain ⟨outer, inner, rfl, hinner, houter⟩ := hread
      refine ⟨outer, inner ++ connective :: operand, ?_, ?_, houter⟩
      · simp
      · exact Derives.expression_append hconnective hinner hoperand

theorem closeGroup {depth : Nat} {read : List Token}
    (hread : CompleteAt names (depth + 1) read) :
    CompleteAt names depth (read ++ [Token.closeGroup]) := by
  obtain ⟨outer, inner, rfl, hinner, houter⟩ := hread
  have hgroup := houter _ (.group hinner)
  simpa using hgroup

end CompleteAt

namespace ParseState

theorem beginOperand_eq_ok_iff (hfree : names.Unreserved) {depth : Nat} {token : Token}
    {next : ParseState} :
    beginOperand names depth token = .ok next ↔
      (token = Keyword.not.word ∧ next = ⟨.operand, depth⟩) ∨
      (token = Token.openGroup ∧ next = ⟨.operand, depth + 1⟩) ∨
      (token = Token.openSet ∧ next = ⟨.member, depth⟩) ∨
      (names.kind? token = some .cls ∧ next = ⟨.complete, depth⟩) ∨
      (names.kind? token = some .objectProperty ∧ next = ⟨.objectRestriction, depth⟩) ∨
      (names.kind? token = some .dataProperty ∧ next = ⟨.dataRestriction, depth⟩) := by
  have hnot := hfree Keyword.not.word (by decide)
  have hgroup := hfree Token.openGroup (by decide)
  have hset := hfree Token.openSet (by decide)
  have hnotGroup : Keyword.not.word ≠ Token.openGroup := by decide
  have hnotSet : Keyword.not.word ≠ Token.openSet := by decide
  have hgroupSet : Token.openGroup ≠ Token.openSet := by decide
  unfold beginOperand
  split
  · subst token
    simp [hnot, hnotGroup, hnotSet, @eq_comm _ next]
  · split
    · subst token
      simp [hgroup, hnotGroup.symm, hgroupSet, @eq_comm _ next]
    · split
      · subst token
        simp [hset, hnotSet.symm, hgroupSet.symm, @eq_comm _ next]
      · split <;> simp_all [@eq_comm _ next]

theorem afterOperand_eq_ok_iff {depth : Nat} {token : Token} {next : ParseState} :
    afterOperand depth token = .ok next ↔
      ((token = Keyword.and.word ∨ token = Keyword.or.word) ∧ next = ⟨.operand, depth⟩) ∨
      (token = Token.closeGroup ∧ ∃ outer, depth = outer + 1 ∧ next = ⟨.complete, outer⟩) := by
  unfold afterOperand
  split
  · rename_i hconnective
    rcases hconnective with rfl | rfl <;>
      simp [Keyword.word, Token.closeGroup, @eq_comm _ next]
  · rename_i hconnective
    split
    · cases depth <;> simp_all [@eq_comm _ next]
    · simp_all

theorem restriction_eq_ok_iff {phase filler value count : Phase} {depth : Nat} {token : Token}
    {next : ParseState} :
    restriction phase filler value count depth token = .ok next ↔
      (token.isQuantifier = true ∧ next = ⟨filler, depth⟩) ∨
      (token = Keyword.value.word ∧ next = ⟨value, depth⟩) ∨
      (token.isBound = true ∧ next = ⟨count, depth⟩) := by
  unfold restriction
  simp only [Token.isQuantifier, Token.isBound, Bool.or_eq_true, beq_iff_eq]
  split
  · rename_i hquantifier
    rcases hquantifier with rfl | rfl <;> simp [Keyword.word, @eq_comm _ next]
  · split
    · subst token
      simp [Keyword.word, @eq_comm _ next]
    · split <;> simp_all [@eq_comm _ next, or_assoc]

theorem count_eq_ok_iff {phase filler : Phase} {depth : Nat} {token : Token}
    {next : ParseState} :
    count phase filler depth token = .ok next ↔
      token.isCardinality = true ∧ next = ⟨filler, depth⟩ := by
  unfold count Token.isCardinality
  split <;> simp_all [@eq_comm _ next]

theorem name_eq_ok_iff {kind : EntityKind} {phase following : Phase} {depth : Nat}
    {token : Token} {next : ParseState} :
    name names kind phase following depth token = .ok next ↔
      names.kind? token = some kind ∧ next = ⟨following, depth⟩ := by
  unfold name
  split <;> simp_all [@eq_comm _ next]

/-- What a token can do to the operand that is being read: it belongs to the
operand, it opens a group, it connects a complete operand with the next one or
it closes the group of a complete operand. -/
inductive Effect (names : NameTable) (state : ParseState) (token : Token)
    (next : ParseState) : Prop where
  | inside :
      next.depth = state.depth →
      (∀ tokens, next.phase.Finishes names tokens →
        state.phase.Finishes names (token :: tokens)) → Effect names state token next
  | opened :
      (∀ tokens, Derives names .primary tokens → state.phase.Finishes names tokens) →
      token = Token.openGroup → next = ⟨.operand, state.depth + 1⟩ →
        Effect names state token next
  | connected :
      state.phase.Finishes names [] →
      (token = Keyword.and.word ∨ token = Keyword.or.word) →
      next = ⟨.operand, state.depth⟩ → Effect names state token next
  | closed :
      state.phase.Finishes names [] → token = Token.closeGroup →
      state.depth = next.depth + 1 → next.phase = .complete → Effect names state token next

theorem beginOperand_effect (hfree : names.Unreserved) {state next : ParseState}
    {token : Token}
    (hphase : ∀ tokens, Derives names .primary tokens → state.phase.Finishes names tokens)
    (hstep : beginOperand names state.depth token = .ok next) :
    Effect names state token next := by
  rcases (beginOperand_eq_ok_iff hfree).1 hstep with
    ⟨rfl, rfl⟩ | ⟨rfl, rfl⟩ | ⟨rfl, rfl⟩ | ⟨hname, rfl⟩ | ⟨hname, rfl⟩ | ⟨hname, rfl⟩
  · exact .inside rfl fun tokens htokens => hphase _ (.not htokens)
  · exact .opened hphase rfl rfl
  · refine .inside rfl ?_
    rintro tokens ⟨members, rfl, hmembers⟩
    exact hphase _ (.enumeration hmembers)
  · refine .inside rfl ?_
    rintro tokens rfl
    exact hphase _ (.cls hname)
  · exact .inside rfl fun tokens htokens => hphase _ (.objectProperty hname htokens)
  · exact .inside rfl fun tokens htokens => hphase _ (.dataProperty hname htokens)

theorem afterOperand_effect {state next : ParseState} {token : Token}
    (hphase : state.phase.Finishes names [])
    (hstep : afterOperand state.depth token = .ok next) : Effect names state token next := by
  rcases afterOperand_eq_ok_iff.1 hstep with ⟨hconnective, rfl⟩ | ⟨rfl, outer, hdepth, rfl⟩
  · exact .connected hphase hconnective rfl
  · exact .closed hphase rfl hdepth rfl

/-- Every step has one of the four effects. -/
theorem step_effect (hfree : names.Unreserved) {state next : ParseState} {token : Token}
    (hstep : state.step names token = .ok next) : Effect names state token next := by
  obtain ⟨phase, depth⟩ := state
  cases phase with
  | operand => exact beginOperand_effect hfree (fun _ htokens => htokens) hstep
  | complete => exact afterOperand_effect rfl hstep
  | objectRestriction =>
      rcases restriction_eq_ok_iff.1 hstep with
        ⟨hquantifier, rfl⟩ | ⟨rfl, rfl⟩ | ⟨hbound, rfl⟩
      · exact .inside rfl fun _ htokens => .objectQuantifier hquantifier htokens
      · refine .inside rfl ?_
        rintro tokens ⟨name, rfl, hname⟩
        exact .objectValue hname
      · refine .inside rfl ?_
        rintro tokens ⟨count, filler, rfl, hcount, rfl | hfiller⟩
        · exact .objectBound hbound hcount
        · exact .objectBoundFiller hbound hcount hfiller
  | dataRestriction =>
      rcases restriction_eq_ok_iff.1 hstep with
        ⟨hquantifier, rfl⟩ | ⟨rfl, rfl⟩ | ⟨hbound, rfl⟩
      · refine .inside rfl ?_
        rintro tokens ⟨name, rfl, hname⟩
        exact .dataQuantifier hquantifier hname
      · refine .inside rfl ?_
        rintro tokens ⟨literal, rfl, hliteral⟩
        exact .dataValue hliteral
      · refine .inside rfl ?_
        rintro tokens ⟨count, filler, rfl, hcount, rfl | ⟨name, rfl, hname⟩⟩
        · exact .dataBound hbound hcount
        · exact .dataBoundFiller hbound hcount hname
  | objectCount =>
      obtain ⟨hcount, rfl⟩ := count_eq_ok_iff.1 hstep
      exact .inside rfl fun filler hfiller => ⟨token, filler, rfl, hcount, hfiller⟩
  | dataCount =>
      obtain ⟨hcount, rfl⟩ := count_eq_ok_iff.1 hstep
      exact .inside rfl fun filler hfiller => ⟨token, filler, rfl, hcount, hfiller⟩
  | objectFiller =>
      simp only [step] at hstep
      split at hstep
      · exact afterOperand_effect (Or.inl rfl) hstep
      · exact beginOperand_effect hfree (fun _ htokens => Or.inr htokens) hstep
  | dataFiller =>
      simp only [step] at hstep
      split at hstep
      · exact afterOperand_effect (Or.inl rfl) hstep
      · obtain ⟨hname, rfl⟩ := name_eq_ok_iff.1 hstep
        refine .inside rfl ?_
        rintro tokens rfl
        exact Or.inr ⟨token, rfl, hname⟩
  | individual =>
      obtain ⟨hname, rfl⟩ := name_eq_ok_iff.1 hstep
      refine .inside rfl ?_
      rintro tokens rfl
      exact ⟨token, rfl, hname⟩
  | datatype =>
      obtain ⟨hname, rfl⟩ := name_eq_ok_iff.1 hstep
      refine .inside rfl ?_
      rintro tokens rfl
      exact ⟨token, rfl, hname⟩
  | literal =>
      simp only [step] at hstep
      split at hstep
      · rename_i hliteral
        cases hstep
        refine .inside rfl ?_
        rintro tokens rfl
        exact ⟨token, rfl, hliteral⟩
      · cases hstep
  | member =>
      obtain ⟨hname, rfl⟩ := name_eq_ok_iff.1 hstep
      refine .inside rfl ?_
      rintro tokens (rfl | ⟨members, rfl, hmembers⟩)
      · exact ⟨[token], rfl, .individual hname⟩
      · exact ⟨token :: Token.comma :: members, rfl, hmembers.individuals_cons hname⟩
  | memberEnd =>
      simp only [step] at hstep
      split at hstep
      · subst token
        cases hstep
        refine .inside rfl ?_
        rintro tokens ⟨members, rfl, hmembers⟩
        exact Or.inr ⟨members, rfl, hmembers⟩
      · split at hstep
        · subst token
          cases hstep
          refine .inside rfl ?_
          rintro tokens rfl
          exact Or.inl rfl
        · cases hstep

/-- Some tokens have been read when a state is reached: whatever finishes the
operand in hand leaves complete operands only. -/
def Reads (names : NameTable) (state : ParseState) (read : List Token) : Prop :=
  ∀ tokens, state.phase.Finishes names tokens →
    CompleteAt names state.depth (read ++ tokens)

theorem reads_start : start.Reads names [] := by
  intro tokens htokens
  exact .ofConjunction (.ofPrimary htokens)

theorem Reads.step (hfree : names.Unreserved) {state next : ParseState} {token : Token}
    {read : List Token} (hread : state.Reads names read)
    (hstep : state.step names token = .ok next) : next.Reads names (read ++ [token]) := by
  intro tokens htokens
  rw [List.append_assoc, List.singleton_append]
  cases step_effect hfree hstep with
  | inside hdepth hfinish =>
      rw [hdepth]
      exact hread _ (hfinish tokens htokens)
  | opened hphase htoken hnext =>
      -- The group is an operand in the making, so the tokens before it wait for one.
      subst htoken hnext
      refine ⟨read, tokens, rfl, .ofConjunction (.ofPrimary htokens), ?_⟩
      intro operand hoperand
      exact hread operand (hphase operand hoperand)
  | connected hphase hconnective hnext =>
      subst hnext
      have hcomplete := hread [] hphase
      rw [List.append_nil] at hcomplete
      exact hcomplete.connect hconnective htokens
  | closed hphase htoken hdepth hnext =>
      subst htoken
      rw [hnext] at htokens
      obtain rfl : tokens = [] := htokens
      have hcomplete := hread [] hphase
      rw [List.append_nil, hdepth] at hcomplete
      exact hcomplete.closeGroup

/-- The text may end only behind a complete operand outside all groups. -/
theorem finish_eq_ok (names : NameTable) {state : ParseState} (hfinish : state.finish = .ok ()) :
    state.phase.Finishes names [] ∧ state.depth = 0 := by
  obtain ⟨phase, depth⟩ := state
  cases phase <;> simp_all [finish, Phase.Finishes]

theorem run_cons_of_step {state next : ParseState} {token : Token}
    (hstep : state.step names token = .ok next) (rest : List Token) :
    state.run names (token :: rest) = next.run names rest := by
  rw [run, hstep]

theorem exists_step_of_run {state : ParseState} {token : Token} {rest : List Token}
    (hrun : state.run names (token :: rest) = .ok ()) :
    ∃ next, state.step names token = .ok next ∧ next.run names rest = .ok () := by
  cases hstep : state.step names token with
  | error expectations => rw [run, hstep] at hrun; cases hrun
  | ok next => exact ⟨next, rfl, by rwa [run_cons_of_step hstep] at hrun⟩

/-- An accepted run ends with a class expression. -/
theorem Reads.run (hfree : names.Unreserved) {state : ParseState} {read tokens : List Token}
    (hread : state.Reads names read) (hrun : state.run names tokens = .ok ()) :
    Derives names .expression (read ++ tokens) := by
  induction tokens generalizing state read with
  | nil =>
      obtain ⟨hphase, hdepth⟩ := finish_eq_ok names hrun
      have hcomplete := hread [] hphase
      rwa [hdepth] at hcomplete
  | cons token rest ih =>
      obtain ⟨next, hstep, hrest⟩ := exists_step_of_run hrun
      have hnext := ih (hread.step hfree hstep) hrest
      simpa using hnext

end ParseState

/-- Nothing follows, or a token that only a complete operand can have behind
it. -/
def Token.Closes (rest : List Token) : Prop :=
  ∀ token ∈ rest.head?, token.endsOperand = true

namespace Phrase

/-- The phase in which a phrase begins. -/
def entry : Phrase → Phase
  | .expression | .conjunction | .primary => .operand
  | .objectRestriction => .objectRestriction
  | .dataRestriction => .dataRestriction
  | .individuals => .member

/-- The phase behind a phrase. -/
def exit : Phrase → Phase
  | .individuals => .memberEnd
  | _ => .complete

end Phrase

namespace Derives

/-- An operand never begins with a token that ends one. -/
theorem primary_head (hfree : names.Unreserved) {tokens : List Token}
    (hprimary : Derives names .primary tokens) :
    ∃ token rest, tokens = token :: rest ∧ token.endsOperand = false := by
  cases hprimary with
  | not _ => exact ⟨_, _, rfl, by decide⟩
  | group _ => exact ⟨_, _, rfl, by decide⟩
  | enumeration _ => exact ⟨_, _, rfl, by decide⟩
  | cls hkind => exact ⟨_, _, rfl, hfree.endsOperand_of_kind? hkind⟩
  | objectProperty hkind _ => exact ⟨_, _, rfl, hfree.endsOperand_of_kind? hkind⟩
  | dataProperty hkind _ => exact ⟨_, _, rfl, hfree.endsOperand_of_kind? hkind⟩

end Derives

namespace ParseState

/-- A missing filler is as good as a complete operand. -/
theorem run_filler_of_closes {phase : Phase} {depth : Nat} {rest : List Token}
    (hphase : phase = .objectFiller ∨ phase = .dataFiller) (hrest : Token.Closes rest) :
    run names ⟨phase, depth⟩ rest = run names ⟨.complete, depth⟩ rest := by
  cases rest with
  | nil => rcases hphase with rfl | rfl <;> rfl
  | cons token rest =>
      have hends : token.endsOperand = true := hrest token rfl
      rcases hphase with rfl | rfl <;> simp only [run, step, hends, if_true]

/-- A filler that is there is read as an operand. -/
theorem run_objectFiller_of_primary (hfree : names.Unreserved) {depth : Nat}
    {filler rest : List Token} (hfiller : Derives names .primary filler) :
    run names ⟨.objectFiller, depth⟩ (filler ++ rest) =
      run names ⟨.operand, depth⟩ (filler ++ rest) := by
  obtain ⟨token, others, rfl, hends⟩ := hfiller.primary_head hfree
  simp [run, step, hends]

end ParseState

namespace ParseState

theorem run_cons_cons_of_step {state middle next : ParseState} {first second : Token}
    (hfirst : state.step names first = .ok middle)
    (hsecond : middle.step names second = .ok next) (rest : List Token) :
    state.run names (first :: second :: rest) = next.run names rest := by
  rw [run_cons_of_step hfirst, run_cons_of_step hsecond]

/-- An operand that is followed through can be connected with what comes
next. -/
theorem run_connected {connective : Token} {left : List Token} {depth : Nat}
    (hconnective : connective = Keyword.and.word ∨ connective = Keyword.or.word)
    (hleft : ∀ rest, Token.Closes rest →
      run names ⟨.operand, depth⟩ (left ++ rest) = run names ⟨.complete, depth⟩ rest)
    (rest : List Token) :
    run names ⟨.operand, depth⟩ (left ++ connective :: rest) =
      run names ⟨.operand, depth⟩ rest := by
  have hcloses : Token.Closes (connective :: rest) := by
    rcases hconnective with rfl | rfl <;> simp [Token.Closes, Token.endsOperand]
  have hstep : step names ⟨.complete, depth⟩ connective = .ok ⟨.operand, depth⟩ :=
    afterOperand_eq_ok_iff.2 (Or.inl ⟨hconnective, rfl⟩)
  rw [hleft _ hcloses, run_cons_of_step hstep]

end ParseState

namespace Derives

open ParseState

/-- The recogniser follows a derivation from the entry of its phrase to the
exit, whatever comes behind an operand. -/
theorem run_append (hfree : names.Unreserved) {phrase : Phrase} {tokens : List Token}
    (hderives : Derives names phrase tokens) (depth : Nat) (rest : List Token)
    (hrest : phrase ≠ .individuals → Token.Closes rest) :
    run names ⟨phrase.entry, depth⟩ (tokens ++ rest) =
      run names ⟨phrase.exit, depth⟩ rest := by
  -- A group closes one level further in, and behind an operand stands the rest of its
  -- phrase, so depth and rest vary along the induction.
  induction hderives generalizing depth rest with
  | ofConjunction _ ih => exact ih depth rest fun _ => hrest (by simp)
  | ofPrimary _ ih => exact ih depth rest fun _ => hrest (by simp)
  | or _ _ ihLeft ihRight =>
      have hleft := run_connected (Or.inr rfl) fun rest hcloses =>
        ihLeft depth rest fun _ => hcloses
      rw [List.append_assoc, List.cons_append]
      exact (hleft _).trans (ihRight depth rest fun _ => hrest (by simp))
  | and _ _ ihLeft ihRight =>
      have hleft := run_connected (Or.inl rfl) fun rest hcloses =>
        ihLeft depth rest fun _ => hcloses
      rw [List.append_assoc, List.cons_append]
      exact (hleft _).trans (ihRight depth rest fun _ => hrest (by simp))
  | not _ ih =>
      have hstep : step names ⟨.operand, depth⟩ Keyword.not.word = .ok ⟨.operand, depth⟩ :=
        (beginOperand_eq_ok_iff hfree).2 (by simp)
      exact (run_cons_of_step hstep _).trans (ih depth rest fun _ => hrest (by simp))
  | @group inner _ ih =>
      have hopen : step names ⟨.operand, depth⟩ Token.openGroup = .ok ⟨.operand, depth + 1⟩ :=
        (beginOperand_eq_ok_iff hfree).2 (by simp)
      have hclose : step names ⟨.complete, depth + 1⟩ Token.closeGroup =
          .ok ⟨.complete, depth⟩ :=
        afterOperand_eq_ok_iff.2 (Or.inr ⟨rfl, depth, rfl, rfl⟩)
      have hcloses : Token.Closes (Token.closeGroup :: rest) := by
        simp [Token.Closes, Token.endsOperand]
      rw [List.cons_append, List.append_assoc, List.singleton_append]
      calc
        run names ⟨.operand, depth⟩
              (Token.openGroup :: (inner ++ Token.closeGroup :: rest))
            = run names ⟨.operand, depth + 1⟩ (inner ++ Token.closeGroup :: rest) :=
          run_cons_of_step hopen _
        _ = run names ⟨.complete, depth + 1⟩ (Token.closeGroup :: rest) :=
          ih (depth + 1) _ fun _ => hcloses
        _ = run names ⟨.complete, depth⟩ rest := run_cons_of_step hclose rest
  | @enumeration members _ ih =>
      have hopen : step names ⟨.operand, depth⟩ Token.openSet = .ok ⟨.member, depth⟩ :=
        (beginOperand_eq_ok_iff hfree).2 (by simp)
      have hclose : step names ⟨.memberEnd, depth⟩ Token.closeSet = .ok ⟨.complete, depth⟩ := rfl
      rw [List.cons_append, List.append_assoc, List.singleton_append]
      calc
        run names ⟨.operand, depth⟩ (Token.openSet :: (members ++ Token.closeSet :: rest))
            = run names ⟨.member, depth⟩ (members ++ Token.closeSet :: rest) :=
          run_cons_of_step hopen _
        _ = run names ⟨.memberEnd, depth⟩ (Token.closeSet :: rest) :=
          ih depth _ fun hphrase => absurd rfl hphrase
        _ = run names ⟨.complete, depth⟩ rest := run_cons_of_step hclose rest
  | @cls name hname =>
      have hstep : step names ⟨.operand, depth⟩ name = .ok ⟨.complete, depth⟩ :=
        (beginOperand_eq_ok_iff hfree).2 (by simp [hname])
      exact run_cons_of_step hstep rest
  | @objectProperty name _ hname _ ih =>
      have hstep : step names ⟨.operand, depth⟩ name = .ok ⟨.objectRestriction, depth⟩ :=
        (beginOperand_eq_ok_iff hfree).2 (by simp [hname])
      exact (run_cons_of_step hstep _).trans (ih depth rest fun _ => hrest (by simp))
  | @dataProperty name _ hname _ ih =>
      have hstep : step names ⟨.operand, depth⟩ name = .ok ⟨.dataRestriction, depth⟩ :=
        (beginOperand_eq_ok_iff hfree).2 (by simp [hname])
      exact (run_cons_of_step hstep _).trans (ih depth rest fun _ => hrest (by simp))
  | @individual name hname =>
      have hstep : step names ⟨.member, depth⟩ name = .ok ⟨.memberEnd, depth⟩ :=
        name_eq_ok_iff.2 ⟨hname, rfl⟩
      exact run_cons_of_step hstep rest
  | @comma members name _ hname ih =>
      have hcomma : step names ⟨.memberEnd, depth⟩ Token.comma = .ok ⟨.member, depth⟩ := rfl
      have hstep : step names ⟨.member, depth⟩ name = .ok ⟨.memberEnd, depth⟩ :=
        name_eq_ok_iff.2 ⟨hname, rfl⟩
      -- Individuals need no lookahead: what follows is the comma, not an end of operand.
      rw [List.append_assoc]
      exact (ih depth _ fun hphrase => absurd rfl hphrase).trans
        (run_cons_cons_of_step hcomma hstep rest)
  | @objectQuantifier quantifier _ hquantifier _ ih =>
      have hstep : step names ⟨.objectRestriction, depth⟩ quantifier = .ok ⟨.operand, depth⟩ :=
        restriction_eq_ok_iff.2 (Or.inl ⟨hquantifier, rfl⟩)
      exact (run_cons_of_step hstep _).trans (ih depth rest fun _ => hrest (by simp))
  | @objectValue name hname =>
      have hvalue : step names ⟨.objectRestriction, depth⟩ Keyword.value.word =
          .ok ⟨.individual, depth⟩ :=
        restriction_eq_ok_iff.2 (Or.inr (Or.inl ⟨rfl, rfl⟩))
      have hstep : step names ⟨.individual, depth⟩ name = .ok ⟨.complete, depth⟩ :=
        name_eq_ok_iff.2 ⟨hname, rfl⟩
      exact run_cons_cons_of_step hvalue hstep rest
  | @objectBound bound count hbound hcount =>
      have hfirst : step names ⟨.objectRestriction, depth⟩ bound = .ok ⟨.objectCount, depth⟩ :=
        restriction_eq_ok_iff.2 (Or.inr (Or.inr ⟨hbound, rfl⟩))
      have hsecond : step names ⟨.objectCount, depth⟩ count = .ok ⟨.objectFiller, depth⟩ :=
        count_eq_ok_iff.2 ⟨hcount, rfl⟩
      exact (run_cons_cons_of_step hfirst hsecond rest).trans
        (run_filler_of_closes (Or.inl rfl) (hrest (by simp)))
  | @objectBoundFiller bound count _ hbound hcount hfiller ih =>
      have hfirst : step names ⟨.objectRestriction, depth⟩ bound = .ok ⟨.objectCount, depth⟩ :=
        restriction_eq_ok_iff.2 (Or.inr (Or.inr ⟨hbound, rfl⟩))
      have hsecond : step names ⟨.objectCount, depth⟩ count = .ok ⟨.objectFiller, depth⟩ :=
        count_eq_ok_iff.2 ⟨hcount, rfl⟩
      refine (run_cons_cons_of_step hfirst hsecond _).trans ?_
      refine (run_objectFiller_of_primary hfree hfiller).trans ?_
      exact ih depth rest fun _ => hrest (by simp)
  | @dataQuantifier quantifier name hquantifier hname =>
      have hfirst : step names ⟨.dataRestriction, depth⟩ quantifier = .ok ⟨.datatype, depth⟩ :=
        restriction_eq_ok_iff.2 (Or.inl ⟨hquantifier, rfl⟩)
      have hsecond : step names ⟨.datatype, depth⟩ name = .ok ⟨.complete, depth⟩ :=
        name_eq_ok_iff.2 ⟨hname, rfl⟩
      exact run_cons_cons_of_step hfirst hsecond rest
  | @dataValue literal hliteral =>
      have hvalue : step names ⟨.dataRestriction, depth⟩ Keyword.value.word =
          .ok ⟨.literal, depth⟩ :=
        restriction_eq_ok_iff.2 (Or.inr (Or.inl ⟨rfl, rfl⟩))
      have hstep : step names ⟨.literal, depth⟩ literal = .ok ⟨.complete, depth⟩ := by
        simp [step, hliteral]
      exact run_cons_cons_of_step hvalue hstep rest
  | @dataBound bound count hbound hcount =>
      have hfirst : step names ⟨.dataRestriction, depth⟩ bound = .ok ⟨.dataCount, depth⟩ :=
        restriction_eq_ok_iff.2 (Or.inr (Or.inr ⟨hbound, rfl⟩))
      have hsecond : step names ⟨.dataCount, depth⟩ count = .ok ⟨.dataFiller, depth⟩ :=
        count_eq_ok_iff.2 ⟨hcount, rfl⟩
      exact (run_cons_cons_of_step hfirst hsecond rest).trans
        (run_filler_of_closes (Or.inr rfl) (hrest (by simp)))
  | @dataBoundFiller bound count name hbound hcount hname =>
      have hfirst : step names ⟨.dataRestriction, depth⟩ bound = .ok ⟨.dataCount, depth⟩ :=
        restriction_eq_ok_iff.2 (Or.inr (Or.inr ⟨hbound, rfl⟩))
      have hsecond : step names ⟨.dataCount, depth⟩ count = .ok ⟨.dataFiller, depth⟩ :=
        count_eq_ok_iff.2 ⟨hcount, rfl⟩
      have hends := hfree.endsOperand_of_kind? hname
      have hstep : step names ⟨.dataFiller, depth⟩ name = .ok ⟨.complete, depth⟩ := by
        simp [step, hends, ParseState.name, hname]
      exact (run_cons_cons_of_step hfirst hsecond _).trans (run_cons_of_step hstep rest)

end Derives

theorem recognise_eq_ok_iff (hfree : names.Unreserved) (tokens : List Token) :
    recognise names tokens = .ok () ↔ Derives names .expression tokens := by
  constructor
  · intro hrun
    exact ParseState.reads_start.run hfree hrun
  · intro hderives
    have hcloses : Token.Closes [] := by simp [Token.Closes]
    have hrun := hderives.run_append hfree 0 [] fun _ => hcloses
    rw [List.append_nil] at hrun
    exact hrun

theorem NameTable.check_accepts_iff (names : NameTable) (text : Text) :
    names.check text = .accepted ↔ recognise names (Token.ofText text) = .ok () := by
  unfold NameTable.check
  cases hresult : recognise names (Token.ofText text) with
  | ok _ => simp
  | error expectations => simp

/-- The checker accepts a text exactly if the grammar derives its tokens. -/
theorem NameTable.check_eq_accepted_iff (names : NameTable) (hfree : names.Unreserved)
    (text : Text) :
    names.check text = .accepted ↔ Derives names .expression (Token.ofText text) := by
  rw [names.check_accepts_iff, recognise_eq_ok_iff hfree]

/-- A bound without a filler, a negated group and an enumeration in one
expression. -/
theorem NameTable.check_eq_accepted_iff_nested :
    let names : NameTable :=
      ⟨[("Pizza".toList, .cls), ("hasTopping".toList, .objectProperty),
        ("Italy".toList, .individual), ("France".toList, .individual)]⟩
    let text : Text := "hasTopping min 2 and not (Pizza or \x7bItaly, France\x7d)".toList
    names.Unreserved ∧ Derives names .expression (Token.ofText text) :=
  ⟨by decide, (NameTable.check_eq_accepted_iff _ (by decide) _).1 (by decide)⟩

end ClassExpr
