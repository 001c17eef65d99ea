/-
The words offered for a partial word: first the keywords that the grammar
expects, then the entities of the expected kinds.
-/
import ClassExpr.Entity.Index
import ClassExpr.Grammar.Expectations

namespace ClassExpr

/-- A word that may replace the partial word. -/
inductive Candidate where
  | keyword (word : Text)
  | entity (entity : Entity) (label insertion : Text)
  deriving DecidableEq, Repr

namespace Candidate

/-- An entity that is shown and inserted by its rendering. -/
def ofEntity (render : Rendering) (entity : Entity) : Candidate :=
  .entity entity (render entity) (render entity)

/-- The text that replaces the partial word. -/
def insertion : Candidate → Text
  | .keyword word => word
  | .entity _ _ insertion => insertion

def label : Candidate → Text
  | .keyword word => word
  | .entity _ label _ => label

/-- The kind of an entity; a keyword has none. -/
def kind? : Candidate → Option EntityKind
  | .keyword _ => none
  | .entity found _ _ => some found.kind

end Candidate

/-- Finds entities of some kinds by the beginning of their name. -/
abbrev Matcher := Text → KindSet → List Entity

structure CandidateSource where
  find : Matcher
  render : Rendering

/-- The candidates for a partial word.  Nothing is ranked, and a word that
turns up twice stays twice. -/
def CandidateSource.gather (source : CandidateSource) (start : Text)
    (expectations : Expectations) : List Candidate :=
  let folded := Text.lowercase start
  (expectations.keywords.filter fun word => folded.isPrefixOf (Text.lowercase word)).map
      Candidate.keyword ++
    (source.find start expectations.kinds).map (Candidate.ofEntity source.render)

/-- The candidates of a vocabulary that is indexed by one rendering and
inserted by another. -/
def CandidateSource.ofVocabulary (indexed inserted : Rendering) (vocabulary : Vocabulary) :
    CandidateSource :=
  ⟨(EntityIndex.ofVocabulary indexed vocabulary).find, inserted⟩

end ClassExpr
