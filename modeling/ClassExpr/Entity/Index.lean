/-
Look-up of entities by the beginning of their rendering, without regard to
case.  The answer keeps the order in which the entities were indexed.
-/
import ClassExpr.Entity.Basic
import ClassExpr.Text.Lowercase

namespace ClassExpr

/-- An entity with its lower-cased rendering. -/
structure IndexEntry where
  entity : Entity
  folded : Text

/-- Entities in the order they were added. -/
structure EntityIndex where
  entries : List IndexEntry := []

namespace EntityIndex

/-- The index with one more entity at its end. -/
def insert (index : EntityIndex) (render : Rendering) (entity : Entity) : EntityIndex :=
  ⟨index.entries ++ [⟨entity, Text.lowercase (render entity)⟩]⟩

def ofVocabulary (render : Rendering) (vocabulary : Vocabulary) : EntityIndex :=
  ⟨vocabulary.map fun entity => ⟨entity, Text.lowercase (render entity)⟩⟩

def size (index : EntityIndex) : Nat :=
  index.entries.length

/-- The entities of the given kinds whose rendering begins with `start`. -/
def find (index : EntityIndex) (start : Text) (kinds : KindSet) : List Entity :=
  if kinds.isEmpty then []
  else
    let folded := Text.lowercase start
    (index.entries.filter fun entry =>
      kinds.contains entry.entity.kind && folded.isPrefixOf entry.folded).map (·.entity)

end EntityIndex

end ClassExpr
