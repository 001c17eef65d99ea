/-
The names a checker knows, each with the kind of entity it stands for.
-/
import ClassExpr.Entity.Basic
import ClassExpr.Grammar.Token

namespace ClassExpr

/-- Names with their kinds, the one added last in front. -/
structure NameTable where
  entries : List (Token × EntityKind) := []

namespace NameTable

/-- The table with one more name, which hides an earlier equal one. -/
def insert (names : NameTable) (name : Token) (kind : EntityKind) : NameTable :=
  ⟨(name, kind) :: names.entries⟩

/-- The names of a vocabulary.  Of two entities with one rendering the later
one counts. -/
def ofVocabulary (render : Rendering) (vocabulary : Vocabulary) : NameTable :=
  vocabulary.foldl (fun names entity => names.insert (render entity) entity.kind) {}

def kind? (names : NameTable) (name : Token) : Option EntityKind :=
  names.entries.lookup name

@[simp] theorem kind?_insert_self (names : NameTable) (name : Token) (kind : EntityKind) :
    (names.insert name kind).kind? name = some kind := by
  simp [insert, kind?]

theorem kind?_insert_of_ne (names : NameTable) {name other : Token} (kind : EntityKind)
    (h : other ≠ name) : (names.insert name kind).kind? other = names.kind? other := by
  have hbeq : (other == name) = false := by simpa using h
  simp [insert, kind?, List.lookup_cons, hbeq]

end NameTable

end ClassExpr
