/-
The named things that class expressions speak of.  An entity has a kind and
an IRI; a set of kinds says which kinds may stand at some place.
-/
import ClassExpr.Text.Basic

namespace ClassExpr

inductive EntityKind where
  | cls
  | objectProperty
  | dataProperty
  | individual
  | datatype
  deriving DecidableEq, Repr

namespace EntityKind

def all : List EntityKind :=
  [.cls, .objectProperty, .dataProperty, .individual, .datatype]

/-- The short tag shown beside an entity in a list. -/
def tag : EntityKind → Text
  | .cls => ['c', 'l', 's']
  | .objectProperty => ['o', 'b', 'j']
  | .dataProperty => ['d', 'a', 't']
  | .individual => ['i', 'n', 'd']
  | .datatype => ['d', 't']

theorem mem_all (kind : EntityKind) : kind ∈ all := by
  cases kind <;> decide

end EntityKind

/-- A set of kinds, one flag for each. -/
structure KindSet where
  classes : Bool := false
  objectProperties : Bool := false
  dataProperties : Bool := false
  individuals : Bool := false
  datatypes : Bool := false
  deriving DecidableEq, Repr

namespace KindSet

def empty : KindSet := {}

def full : KindSet := ⟨true, true, true, true, true⟩

def contains (kinds : KindSet) : EntityKind → Bool
  | .cls => kinds.classes
  | .objectProperty => kinds.objectProperties
  | .dataProperty => kinds.dataProperties
  | .individual => kinds.individuals
  | .datatype => kinds.datatypes

def insert (kinds : KindSet) : EntityKind → KindSet
  | .cls => { kinds with classes := true }
  | .objectProperty => { kinds with objectProperties := true }
  | .dataProperty => { kinds with dataProperties := true }
  | .individual => { kinds with individuals := true }
  | .datatype => { kinds with datatypes := true }

def ofList (kinds : List EntityKind) : KindSet :=
  kinds.foldl insert empty

/-- The members in the fixed order of kinds. -/
def toList (kinds : KindSet) : List EntityKind :=
  EntityKind.all.filter kinds.contains

def isEmpty (kinds : KindSet) : Bool :=
  !(kinds.classes || kinds.objectProperties || kinds.dataProperties || kinds.individuals ||
    kinds.datatypes)

@[simp] theorem contains_full (kind : EntityKind) : full.contains kind = true := by
  cases kind <;> rfl

theorem isEmpty_iff {kinds : KindSet} :
    kinds.isEmpty = true ↔ ∀ kind, kinds.contains kind = false := by
  constructor
  · intro h kind
    simp only [isEmpty, Bool.not_eq_true', Bool.or_eq_false_iff] at h
    obtain ⟨⟨⟨⟨hclass, hobject⟩, hdata⟩, hindividual⟩, hdatatype⟩ := h
    cases kind <;> assumption
  · intro h
    have hclass := h .cls
    have hobject := h .objectProperty
    have hdata := h .dataProperty
    have hindividual := h .individual
    have hdatatype := h .datatype
    simp only [contains] at hclass hobject hdata hindividual hdatatype
    simp [isEmpty, hclass, hobject, hdata, hindividual, hdatatype]

end KindSet

structure Entity where
  kind : EntityKind
  iri : Text
  deriving DecidableEq, Repr

/-- A vocabulary lists its entities in a fixed order. -/
abbrev Vocabulary := List Entity

/-- A way to write an entity as a word. -/
abbrev Rendering := Entity → Text

end ClassExpr
