/-
When the beginning of a name finds the name.

A name and what is typed are lower-cased each on its own.  A capital sigma looks
at its neighbours, so the beginning of a name may be lower-cased in another way
than in the name.  That happens exactly if the name is cut behind a capital
sigma in the middle of a word; every other beginning finds the name.
-/
import Mathlib.Data.List.Basic
import ClassExpr.Proofs.VocabularyWords

namespace ClassExpr

namespace Text

theorem startsWithFolded_iff {text start : Text} :
    text.startsWithFolded start = true ↔ lowercase start <+: lowercase text :=
  List.isPrefixOf_iff_prefix

theorem startsWithFolded_self (text : Text) : text.startsWithFolded text = true :=
  startsWithFolded_iff.2 List.prefix_rfl

theorem startsWithFolded_trans {text long short : Text}
    (hlong : text.startsWithFolded long = true) (hshort : long.startsWithFolded short = true) :
    text.startsWithFolded short = true := by
  rw [startsWithFolded_iff] at *
  exact hshort.trans hlong

/-- Whether a text has a capital sigma with a cased letter before it and
nothing behind it but characters that are passed over.  What is before the text
is given in reverse. -/
def endsInSigma (before : Text) : Text → Bool
  | [] => false
  | c :: rest =>
    (c == 'Σ' && startsCased before && rest.all isCaseIgnorable) ||
      endsInSigma (c :: before) rest

/-- Whether a text is cut at an offset behind a capital sigma in the middle of
a word. -/
def cutsSigma (text : Text) (offset : Nat) : Bool :=
  endsInSigma [] (text.take offset) && startsCased (text.drop offset)

theorem startsCased_cons (c : Char) (rest : Text) :
    startsCased (c :: rest) = if isCaseIgnorable c then startsCased rest else isCased c := by
  unfold startsCased
  rw [List.dropWhile_cons]
  cases isCaseIgnorable c with
  | false => rfl
  | true => rfl

/-- Only if everything is passed over, what follows a text matters. -/
theorem startsCased_append (front rest : Text) :
    startsCased (front ++ rest) =
      if front.all isCaseIgnorable then startsCased rest else startsCased front := by
  induction front with
  | nil => rfl
  | cons c front ih =>
      rw [List.cons_append, startsCased_cons, startsCased_cons, ih, List.all_cons]
      cases isCaseIgnorable c with
      | false => rfl
      | true => rfl

theorem startsCased_of_all {text : Text} (hall : text.all isCaseIgnorable = true) :
    startsCased text = false := by
  have hnil := startsCased_append text []
  rwa [List.append_nil, if_pos hall] at hnil

theorem lowerSigma_inj (before : Text) (left right : Text) :
    lowerSigma before left = lowerSigma before right ↔
      (startsCased before = true → startsCased left = startsCased right) := by
  unfold lowerSigma
  cases startsCased before <;> cases startsCased left <;> cases startsCased right <;> decide

/-- More text behind a capital sigma changes it exactly if it ended a word and
does so no more. -/
theorem lowerSigma_append_iff (before front rest : Text) :
    lowerSigma before front = lowerSigma before (front ++ rest) ↔
      ¬ ((startsCased before && front.all isCaseIgnorable) = true ∧
        startsCased rest = true) := by
  rw [lowerSigma_inj, startsCased_append]
  by_cases hall : front.all isCaseIgnorable = true
  · rw [if_pos hall, startsCased_of_all hall, hall, Bool.and_true, not_and, Bool.not_eq_true]
    exact imp_congr_right fun _ => eq_comm
  · simp [hall]

theorem lowercaseOnto_cons (before : Text) (c : Char) (rest : Text) :
    lowercaseOnto before [] (c :: rest) =
      lowerIn before c rest ++ lowercaseOnto (c :: before) [] rest := by
  rw [lowercaseOnto, lowercaseOnto_eq, List.append_nil, List.reverse_reverse]

theorem lowercaseOnto_prefix_append_iff (before front rest : Text) :
    lowercaseOnto before [] front <+: lowercaseOnto before [] (front ++ rest) ↔
      ¬ (endsInSigma before front = true ∧ startsCased rest = true) := by
  induction front generalizing before with
  | nil => simp [endsInSigma, lowercaseOnto]
  | cons c front ih =>
      rw [List.cons_append, lowercaseOnto_cons, lowercaseOnto_cons, endsInSigma]
      by_cases hsigma : c = 'Σ'
      · -- A sigma has one letter in any case, so the rest is compared from the same place on.
        subst c
        rw [lowerIn, if_pos rfl, lowerIn, if_pos rfl, List.singleton_append,
          List.singleton_append, List.cons_prefix_cons, lowerSigma_append_iff, ih, ← not_or,
          ← or_and_right, beq_self_eq_true, Bool.true_and, ← Bool.or_eq_true]
      · have hother : (c == 'Σ') = false := beq_eq_false_iff_ne.2 hsigma
        rw [lowerIn, if_neg hsigma, lowerIn, if_neg hsigma, List.prefix_append_right_inj, ih,
          hother, Bool.false_and, Bool.false_and, Bool.false_or]

theorem endsInSigma_eq_false {text : Text} (hsigma : 'Σ' ∉ text) (before : Text) :
    endsInSigma before text = false := by
  induction text generalizing before with
  | nil => rfl
  | cons c rest ih =>
      obtain ⟨hc, hrest⟩ := List.ne_and_not_mem_of_not_mem_cons hsigma
      rw [endsInSigma, ih hrest, beq_eq_false_iff_ne.2 (Ne.symm hc)]
      rfl

theorem lowercase_prefix {short text : Text} (hshort : short <+: text) (hsigma : 'Σ' ∉ text) :
    lowercase short <+: lowercase text := by
  obtain ⟨rest, rfl⟩ := hshort
  have hends := endsInSigma_eq_false (fun h => hsigma (List.mem_append_left rest h)) []
  apply (lowercaseOnto_prefix_append_iff [] short rest).2
  simp [hends]

/-- The beginning of a text is lower-cased as it is in the text, unless the text
is cut behind a sigma in the middle of a word. -/
theorem startsWithFolded_take_iff (text : Text) (offset : Nat) :
    text.startsWithFolded (text.take offset) = true ↔ text.cutsSigma offset = false := by
  have happend := lowercaseOnto_prefix_append_iff [] (text.take offset) (text.drop offset)
  rw [List.take_append_drop] at happend
  rw [startsWithFolded_iff, lowercase, lowercase, happend, cutsSigma, ← Bool.and_eq_true,
    Bool.not_eq_true]

end Text

/-- The keywords among the candidates are those expected that begin with the
partial word. -/
theorem CandidateSource.keyword_mem_gather {source : CandidateSource} {start word : Text}
    {expectations : Expectations} :
    .keyword word ∈ source.gather start expectations ↔
      word ∈ expectations.keywords ∧ word.startsWithFolded start = true := by
  have hentity : ∀ entity, Candidate.ofEntity source.render entity ≠ .keyword word := by
    intro entity hsame
    cases hsame
  unfold gather
  simp [hentity, Text.startsWithFolded]

namespace EntityIndex

/-- The index answers with all entities of the given kinds whose rendering
begins as asked, in the order of the vocabulary.  The beginning of a rendering
finds its entity, and the beginning of an expected keyword the keyword, exactly
if it is not cut off behind a capital sigma in the middle of a word. -/
theorem find_take_iff (render : Rendering) (vocabulary : Vocabulary) :
    let index := ofVocabulary render vocabulary
    (∀ start kinds, index.find start kinds =
        vocabulary.filter fun entity =>
          kinds.contains entity.kind && (render entity).startsWithFolded start) ∧
      (∀ entity ∈ vocabulary, ∀ kinds : KindSet, kinds.contains entity.kind = true →
        ∀ offset, entity ∈ index.find ((render entity).take offset) kinds ↔
          (render entity).cutsSigma offset = false) ∧
      ∀ (source : CandidateSource) (expectations : Expectations),
        ∀ keyword ∈ expectations.keywords, ∀ offset,
          .keyword keyword ∈ source.gather (keyword.take offset) expectations ↔
            keyword.cutsSigma offset = false := by
  intro index
  refine ⟨find_ofVocabulary render vocabulary, ?_, ?_⟩
  · intro entity hentity kinds hkind offset
    rw [find_ofVocabulary, List.mem_filter, hkind, Bool.true_and,
      Text.startsWithFolded_take_iff, and_iff_right hentity]
  · intro source expectations keyword hkeyword offset
    rw [CandidateSource.keyword_mem_gather, Text.startsWithFolded_take_iff,
      and_iff_right hkeyword]

/-- A class with a sigma is found by its first three letters, not by its first
four and again by all five; a keyword without one is found by every beginning. -/
theorem find_take_iff_sigma :
    let entity : Entity := ⟨.cls, "menu#ΚΛΑΣΗ".toList⟩
    let index := ofVocabulary Entity.short [⟨.cls, "menu#Pizza".toList⟩, entity]
    let source : CandidateSource := ⟨index.find, Entity.short⟩
    entity ∈ index.find "ΚΛΑ".toList .full ∧ entity ∉ index.find "ΚΛΑΣ".toList .full ∧
      entity ∈ index.find "ΚΛΑΣΗ".toList .full ∧
      .keyword "only".toList ∈ source.gather "on".toList { keywords := ["only".toList] } := by
  intro entity index source
  obtain ⟨_, hentity, hkeyword⟩ :=
    find_take_iff Entity.short [⟨.cls, "menu#Pizza".toList⟩, entity]
  have hfound := hentity entity (by decide) .full (by decide)
  refine ⟨(hfound 3).2 (by decide +kernel), ?_, (hfound 5).2 (by decide +kernel), ?_⟩
  · intro hmem
    exact absurd ((hfound 4).1 hmem) (by decide +kernel)
  · exact (hkeyword source { keywords := ["only".toList] } "only".toList (by decide) 2).2
      (by decide)

/-- A class that is not found by the first four letters of its own name. -/
theorem find_misses_name :
    let entity : Entity := ⟨.cls, "menu#ΚΛΑΣΗ".toList⟩
    4 ≤ (Entity.short entity).length ∧
      entity ∉ (ofVocabulary Entity.short [entity]).find ((Entity.short entity).take 4)
        (KindSet.ofList [.cls]) := by
  decide +kernel

end EntityIndex

end ClassExpr
