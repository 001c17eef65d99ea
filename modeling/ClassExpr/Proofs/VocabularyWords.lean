/-
The words of a vocabulary: the names that its table knows and the candidates
that it offers for an empty partial word.
-/
import Mathlib.Data.List.Induction
import ClassExpr.Completion.Candidate
import ClassExpr.Completion.Probe
import ClassExpr.Entity.ShortForm
import ClassExpr.Proofs.Recognition
import ClassExpr.Proofs.Tokenisation

namespace ClassExpr

namespace NameTable

theorem ofVocabulary_concat (render : Rendering) (vocabulary : Vocabulary) (entity : Entity) :
    ofVocabulary render (vocabulary ++ [entity]) =
      (ofVocabulary render vocabulary).insert (render entity) entity.kind := by
  simp [ofVocabulary]

/-- Every name of the table is the rendering of an entity of that kind. -/
theorem exists_of_kind?_ofVocabulary {render : Rendering} {vocabulary : Vocabulary}
    {name : Token} {kind : EntityKind}
    (hkind : (ofVocabulary render vocabulary).kind? name = some kind) :
    ∃ entity ∈ vocabulary, render entity = name ∧ entity.kind = kind := by
  induction vocabulary using List.reverseRecOn with
  | nil => exact absurd hkind (by simp [ofVocabulary, kind?])
  | append_singleton vocabulary last ih =>
      rw [ofVocabulary_concat] at hkind
      by_cases hname : name = render last
      · subst name
        rw [kind?_insert_self] at hkind
        exact ⟨last, by simp, rfl, Option.some.inj hkind⟩
      · rw [kind?_insert_of_ne _ _ hname] at hkind
        obtain ⟨entity, hentity, hrender, hentityKind⟩ := ih hkind
        exact ⟨entity, by simp [hentity], hrender, hentityKind⟩

/-- Where no two renderings are equal every entity is found under its own. -/
theorem kind?_ofVocabulary_of_mem {render : Rendering} {vocabulary : Vocabulary}
    (hdistinct : (vocabulary.map render).Nodup) {entity : Entity} (hentity : entity ∈ vocabulary) :
    (ofVocabulary render vocabulary).kind? (render entity) = some entity.kind := by
  induction vocabulary using List.reverseRecOn with
  | nil => simp at hentity
  | append_singleton vocabulary last ih =>
      rw [ofVocabulary_concat]
      rw [List.map_append, List.nodup_append] at hdistinct
      obtain ⟨hinit, _, hapart⟩ := hdistinct
      rcases List.mem_append.1 hentity with hmem | hlast
      · have hne : render entity ≠ render last :=
          hapart _ (List.mem_map_of_mem hmem) _ (by simp)
        rw [kind?_insert_of_ne _ _ hne]
        exact ih hinit hmem
      · obtain rfl : entity = last := by simpa using hlast
        exact kind?_insert_self _ _ _

end NameTable

/-- The index finds the entities of the given kinds whose name begins, without
regard to case, as asked.  They come in the order of the vocabulary. -/
theorem EntityIndex.find_ofVocabulary (render : Rendering) (vocabulary : Vocabulary)
    (start : Text) (kinds : KindSet) :
    (ofVocabulary render vocabulary).find start kinds =
      vocabulary.filter fun entity =>
        kinds.contains entity.kind && (render entity).startsWithFolded start := by
  unfold find
  split
  · rename_i hempty
    simp [KindSet.isEmpty_iff.1 hempty]
  · rw [ofVocabulary]
    dsimp only
    rw [List.filter_map, List.map_map]
    exact List.map_id _

theorem EntityIndex.mem_find {render : Rendering} {vocabulary : Vocabulary} {start : Text}
    {kinds : KindSet} {entity : Entity} :
    entity ∈ (ofVocabulary render vocabulary).find start kinds ↔
      entity ∈ vocabulary ∧ kinds.contains entity.kind = true ∧
        Text.lowercase start <+: Text.lowercase (render entity) := by
  simp [find_ofVocabulary, Text.startsWithFolded]

namespace CandidateSource

/-- The candidates are the expected keywords and the entities of the expected
kinds that begin with the partial word. -/
theorem mem_gather {indexed inserted : Rendering} {vocabulary : Vocabulary} {start : Text}
    {expectations : Expectations} {candidate : Candidate} :
    candidate ∈ (ofVocabulary indexed inserted vocabulary).gather start expectations ↔
      (∃ word ∈ expectations.keywords, Text.lowercase start <+: Text.lowercase word ∧
        candidate = .keyword word) ∨
        ∃ entity ∈ vocabulary, expectations.kinds.contains entity.kind = true ∧
          Text.lowercase start <+: Text.lowercase (indexed entity) ∧
          candidate = .ofEntity inserted entity := by
  unfold gather
  rw [List.mem_append, List.mem_map, List.mem_map]
  constructor
  · rintro (⟨word, hword, rfl⟩ | ⟨entity, hentity, rfl⟩)
    · obtain ⟨hmem, hstart⟩ := List.mem_filter.1 hword
      exact Or.inl ⟨word, hmem, List.isPrefixOf_iff_prefix.1 hstart, rfl⟩
    · obtain ⟨hmem, hkind, hstart⟩ := EntityIndex.mem_find.1 hentity
      exact Or.inr ⟨entity, hmem, hkind, hstart, rfl⟩
  · rintro (⟨word, hmem, hstart, rfl⟩ | ⟨entity, hmem, hkind, hstart, rfl⟩)
    · exact Or.inl ⟨word, List.mem_filter.2 ⟨hmem, List.isPrefixOf_iff_prefix.2 hstart⟩, rfl⟩
    · exact Or.inr ⟨entity, EntityIndex.mem_find.2 ⟨hmem, hkind, hstart⟩, rfl⟩

/-- Nothing typed yet: every expected keyword and every entity of an expected
kind is offered. -/
theorem mem_gather_nil {indexed inserted : Rendering} {vocabulary : Vocabulary}
    {expectations : Expectations} {candidate : Candidate} :
    candidate ∈ (ofVocabulary indexed inserted vocabulary).gather [] expectations ↔
      (∃ word ∈ expectations.keywords, candidate = .keyword word) ∨
        ∃ entity ∈ vocabulary, expectations.kinds.contains entity.kind = true ∧
          candidate = .ofEntity inserted entity := by
  have hnil : Text.lowercase [] = [] := rfl
  simp [mem_gather, hnil]

end CandidateSource

def Keyword.all : List Keyword :=
  [.not, .and, .or, .some, .only, .value, .min, .max, .exactly, .true, .false]

theorem Keyword.mem_all (keyword : Keyword) : keyword ∈ all := by
  cases keyword <;> decide

/-- A name is a word of its own: no reserved word, and nothing that ends in
the sentinel. -/
def Token.IsProper (name : Token) : Prop :=
  name.IsWord ∧ (∀ keyword ∈ Keyword.all, name ≠ keyword.word) ∧ ¬ defaultSentinel <:+ name

instance (name : Token) : Decidable name.IsProper :=
  inferInstanceAs (Decidable (name.IsWord ∧ (∀ keyword ∈ Keyword.all, name ≠ keyword.word) ∧
    ¬ defaultSentinel <:+ name))

/-- The table of a vocabulary under short forms. -/
def Vocabulary.shortNames (vocabulary : Vocabulary) : NameTable :=
  NameTable.ofVocabulary Entity.short vocabulary

/-- The candidates of a vocabulary under short forms. -/
def Vocabulary.shortSource (vocabulary : Vocabulary) : CandidateSource :=
  CandidateSource.ofVocabulary Entity.short Entity.short vocabulary

/-- A vocabulary with entities of each kind, whose short forms are distinct
proper names. -/
structure Vocabulary.WellSpelt (vocabulary : Vocabulary) : Prop where
  inhabited : ∀ kind ∈ EntityKind.all, ∃ entity ∈ vocabulary, entity.kind = kind
  distinct : (vocabulary.map Entity.short).Nodup
  proper : ∀ entity ∈ vocabulary, Token.IsProper entity.short

/-- A table with names of each kind, all of them proper. -/
structure NameTable.WellSpelt (names : NameTable) : Prop where
  inhabited : ∀ kind, ∃ name, names.kind? name = some kind
  proper : ∀ name kind, names.kind? name = some kind → name.IsProper

theorem Vocabulary.WellSpelt.shortNames {vocabulary : Vocabulary} (hspelt : vocabulary.WellSpelt) :
    vocabulary.shortNames.WellSpelt where
  inhabited := by
    intro kind
    obtain ⟨entity, hentity, rfl⟩ := hspelt.inhabited kind (EntityKind.mem_all kind)
    exact ⟨entity.short, NameTable.kind?_ofVocabulary_of_mem hspelt.distinct hentity⟩
  proper := by
    intro name kind hkind
    obtain ⟨entity, hentity, rfl, _⟩ := NameTable.exists_of_kind?_ofVocabulary hkind
    exact hspelt.proper entity hentity

namespace NameTable.WellSpelt

variable {names : NameTable}

theorem kind?_eq_none (hspelt : names.WellSpelt) {token : Token} (htoken : ¬ token.IsProper) :
    names.kind? token = none := by
  cases hkind : names.kind? token with
  | none => rfl
  | some kind => exact absurd (hspelt.proper token kind hkind) htoken

/-- Nothing quoted is a name. -/
theorem kind?_quote (hspelt : names.WellSpelt) (inner : Text) :
    names.kind? ('"' :: inner) = none := by
  refine hspelt.kind?_eq_none fun hproper => ?_
  exact absurd (hproper.1.2 '"' List.mem_cons_self) (by decide)

theorem unreserved (hspelt : names.WellSpelt) : names.Unreserved := by
  have himproper : ∀ token ∈ Token.reserved, ¬ token.IsProper := by decide
  intro token htoken
  exact hspelt.kind?_eq_none (himproper token htoken)

end NameTable.WellSpelt

end ClassExpr
