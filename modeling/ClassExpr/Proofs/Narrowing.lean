/-
Typing more leaves fewer candidates.

A partial word without a capital sigma is lower-cased letter by letter, so what
is typed behind it only makes its lower-case form longer.  Whatever begins with
the longer word began with the shorter one, and the candidates that are left
stand in the order they had.
-/
import ClassExpr.Proofs.InsertedWord

namespace ClassExpr

/-- A text begins with its first part in lower case too if no capital sigma in
that part can look at what follows. -/
theorem Text.startsWithFolded_append {front : Text} (hsigma : 'Σ' ∉ front) (rest : Text) :
    (front ++ rest).startsWithFolded front = true := by
  rw [startsWithFolded_iff]
  apply (lowercaseOnto_prefix_append_iff [] front rest).2
  rintro ⟨hends, _⟩
  rw [endsInSigma_eq_false hsigma] at hends
  cases hends

/-- Expectations that ask for less: for fewer kinds and for some of the keywords
in the same order. -/
structure Expectations.Within (narrow wide : Expectations) : Prop where
  kinds : ∀ kind, narrow.kinds.contains kind = true → wide.kinds.contains kind = true
  keywords : narrow.keywords.Sublist wide.keywords

/-- A candidate that is no entity. -/
def Candidate.IsKeyword (candidate : Candidate) : Prop :=
  candidate.kind? = none

namespace CandidateSource

/-- Fewer expectations and a longer word leave some of the candidates, in their
order. -/
theorem gather_sublist {narrow wide : Expectations} (hwithin : narrow.Within wide)
    {long short : Text} (hshort : long.startsWithFolded short = true)
    (indexed inserted : Rendering) (vocabulary : Vocabulary) :
    ((ofVocabulary indexed inserted vocabulary).gather long narrow).Sublist
      ((ofVocabulary indexed inserted vocabulary).gather short wide) := by
  rw [gather_ofVocabulary, gather_ofVocabulary]
  apply List.Sublist.append
  · apply List.Sublist.map
    refine (hwithin.keywords.filter _).trans (List.monotone_filter_right _ ?_)
    intro word hword
    exact Text.startsWithFolded_trans hword hshort
  · apply List.Sublist.map
    apply List.monotone_filter_right
    intro entity hentity
    obtain ⟨hkind, hname⟩ := Bool.and_eq_true_iff.1 hentity
    rw [hwithin.kinds entity.kind hkind, Text.startsWithFolded_trans hname hshort]
    rfl

/-- Whatever the entities are, they stand behind the keywords. -/
theorem gather_keywords_first (source : CandidateSource) (start : Text)
    (expectations : Expectations) :
    (source.gather start expectations).Pairwise
      fun first second => second.IsKeyword → first.IsKeyword := by
  rw [gather, List.pairwise_append]
  refine ⟨?_, ?_, ?_⟩
  · rw [List.pairwise_map]
    exact List.pairwise_of_forall fun _ _ hkeyword => hkeyword
  · rw [List.pairwise_map]
    exact List.pairwise_of_forall fun _ _ hkeyword => nomatch hkeyword
  · intro first hfirst second hsecond hkeyword
    obtain ⟨word, _, rfl⟩ := List.mem_map.1 hfirst
    rfl

/-- A keyword begins with the partial word, and so does an entity that is
inserted by the name it is looked up by. -/
theorem insertion_of_mem_gather {indexed inserted : Rendering} {vocabulary : Vocabulary}
    {start : Text} {expectations : Expectations} {candidate : Candidate}
    (hcandidate : candidate ∈
      (ofVocabulary indexed inserted vocabulary).gather start expectations)
    (hname : candidate.IsKeyword ∨ indexed = inserted) :
    Text.lowercase start <+: Text.lowercase candidate.insertion := by
  rcases hname with hkeyword | rfl
  · rcases mem_gather.1 hcandidate with ⟨word, _, hstart, rfl⟩ | ⟨entity, _, _, _, rfl⟩
    · exact hstart
    · cases hkeyword
  · exact prefix_of_mem_gather hcandidate

/-- Whatever is typed behind a word without a capital sigma, and whether or not
less is expected by then, the candidates that are left are some of those before,
in their order.  The keywords among them come first, and they and the entities
begin with what is typed, provided that entities are looked up by the text that
is inserted. -/
theorem gather_append_narrows (vocabulary : Vocabulary) (indexed inserted : Rendering)
    (start more : Text) (wide narrow : Expectations) (hsigma : 'Σ' ∉ start)
    (hwithin : narrow.Within wide) :
    let source := ofVocabulary indexed inserted vocabulary
    let offered := source.gather (start ++ more) narrow
    offered.Sublist (source.gather start wide) ∧
      (offered.Pairwise fun first second => second.IsKeyword → first.IsKeyword) ∧
      ∀ candidate ∈ offered, candidate.IsKeyword ∨ indexed = inserted →
        Text.lowercase (start ++ more) <+: Text.lowercase candidate.insertion := by
  intro source offered
  have hbegins := Text.startsWithFolded_append hsigma more
  refine ⟨gather_sublist hwithin hbegins indexed inserted vocabulary,
    source.gather_keywords_first _ _, ?_⟩
  intro candidate hcandidate hname
  exact insertion_of_mem_gather hcandidate hname

/-- The first letter has two characters in lower case.  A keyword and a class
that are there twice stay twice, and the individual is expected no more. -/
theorem gather_append_narrows_twice :
    let city : Entity := ⟨.cls, "map#İZMİR".toList⟩
    let source := ofVocabulary Entity.short Entity.short
      [city, ⟨.individual, "map#İzmir".toList⟩, ⟨.cls, "map#İstanbul".toList⟩, city]
    let wide : Expectations :=
      ⟨.full, ["İz".toList, "İki".toList, "iz".toList, "İz".toList]⟩
    let narrow : Expectations := ⟨{ classes := true }, ["İz".toList, "İki".toList, "İz".toList]⟩
    let left := [.keyword "İz".toList, .keyword "İz".toList, .ofEntity Entity.short city,
      .ofEntity Entity.short city]
    source.gather "İz".toList narrow = left ∧
      left.Sublist (source.gather "İ".toList wide) ∧
      (left.Pairwise fun first second => second.IsKeyword → first.IsKeyword) ∧
      "i̇z".toList <+: Text.lowercase (Candidate.ofEntity Entity.short city).insertion := by
  intro city source wide narrow left
  have hleft : source.gather "İz".toList narrow = left := by decide +kernel
  have hwithin : narrow.Within wide :=
    ⟨fun kind _ => KindSet.contains_full kind, by decide +kernel⟩
  obtain ⟨hsublist, hfirst, hbegins⟩ := gather_append_narrows
    [city, ⟨.individual, "map#İzmir".toList⟩, ⟨.cls, "map#İstanbul".toList⟩, city]
    Entity.short Entity.short "İ".toList "z".toList wide narrow (by decide +kernel) hwithin
  have hmem : Candidate.ofEntity Entity.short city ∈ source.gather "İz".toList narrow := by
    decide +kernel
  exact ⟨hleft, hleft ▸ hsublist, hleft ▸ hfirst, hbegins _ hmem (Or.inr rfl)⟩

/-- Typing behind a capital sigma can bring a class back. -/
example :
    let source := ofVocabulary Entity.short Entity.short [⟨.cls, "menu#ΚΛΑΣΗ".toList⟩]
    source.gather "ΚΛΑΣ".toList ⟨.full, []⟩ = [] ∧
      (source.gather ("ΚΛΑΣ".toList ++ "Η".toList) ⟨.full, []⟩).length = 1 := by
  decide +kernel

end CandidateSource

end ClassExpr
