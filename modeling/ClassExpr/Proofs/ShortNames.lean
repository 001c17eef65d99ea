/-
The short name of an IRI is a piece of it.

Behind the name there is nothing but separators.  The name is the fragment if
the IRI has one, and otherwise the last segment of its path.  These conditions
leave no choice, so separators that are written behind an IRI do not change its
name.
-/
import Mathlib.Tactic.MkIffOfInductiveProp
import ClassExpr.Entity.ShortForm
import ClassExpr.Proofs.WordAtCaret

namespace ClassExpr

theorem isSeparator_iff {c : Char} : isSeparator c = true ↔ c = '/' ∨ c = '#' := by
  simp [isSeparator]

theorem isSeparator_eq_false_iff {c : Char} : isSeparator c = false ↔ c ≠ '/' ∧ c ≠ '#' := by
  simp [isSeparator]

/-- A text of nothing but separators. -/
def Separators (text : Text) : Prop :=
  ∀ c ∈ text, c = '/' ∨ c = '#'

instance (text : Text) : Decidable (Separators text) :=
  decidable_of_iff (text.all isSeparator) (by simp [Separators, isSeparator_iff])

/-- A text that does not end in a separator. -/
def Trimmed (text : Text) : Prop :=
  ∀ c ∈ text.getLast?, c ≠ '/' ∧ c ≠ '#'

/-- An IRI cut at its short name: what is before the name, the name, and
separators. -/
@[mk_iff]
structure NamedPiece (iri front name rest : Text) : Prop where
  iri_eq : iri = front ++ name ++ rest
  name_ne_nil : name ≠ []
  no_hash : '#' ∉ name
  last_ne_slash : name.getLast? ≠ some '/'
  rest_separators : Separators rest
  /-- A `#` in front makes the name a fragment. -/
  fragment : '#' ∈ front ++ name → front = [] ∨ front.getLast? = some '#'
  /-- Without one the name is the last segment of a path. -/
  segment : '#' ∉ front ++ name → (front = [] ∨ front.getLast? = some '/') ∧ '/' ∉ name

instance (iri front name rest : Text) : Decidable (NamedPiece iri front name rest) :=
  decidable_of_iff _ (namedPiece_iff iri front name rest).symm

theorem afterLast?_append {c : Char} {front tail : Text} (hfront : front.getLast? = some c)
    (htail : c ∉ tail) : afterLast? c (front ++ tail) = some tail := by
  have hmem : c ∈ front ++ tail := List.mem_append_left _ (List.mem_of_getLast? hfront)
  rw [afterLast?, if_pos hmem]
  apply congrArg some
  apply Text.rtakeWhile_append
  · intro last hlast
    rw [hfront, Option.mem_some_iff] at hlast
    simp [hlast]
  · intro other hother
    simpa using ne_of_mem_of_not_mem hother htail

theorem afterLast?_of_not_mem {c : Char} {text : Text} (hmem : c ∉ text) :
    afterLast? c text = none :=
  if_neg hmem

/-- A text is cut behind the last occurrence of a character. -/
theorem exists_append_of_last {c : Char} {text : Text} (hmem : c ∈ text) :
    ∃ front tail, text = front ++ tail ∧ front.getLast? = some c ∧ c ∉ tail := by
  let other := fun d => d != c
  refine ⟨text.rdropWhile other, text.rtakeWhile other,
    List.rdropWhile_append_rtakeWhile.symm, ?_, ?_⟩
  · have hne : text.rdropWhile other ≠ [] := by
      intro hnil
      simpa [other] using List.rdropWhile_eq_nil_iff.1 hnil c hmem
    have hlast := List.getLast?_eq_getLast_of_ne_nil hne
    have hc := Text.getLast?_rdropWhile other text _ hlast
    rw [hlast, bne_eq_false_iff_eq.1 hc]
  · intro hc
    simpa [other] using (List.mem_rtakeWhile_imp hc : other c = true)

theorem trimSeparators_append {front rest : Text} (hfront : Trimmed front)
    (hrest : Separators rest) : trimSeparators (front ++ rest) = front := by
  apply Text.rdropWhile_append
  · intro c hc
    exact isSeparator_eq_false_iff.2 (hfront c hc)
  · intro c hc
    exact isSeparator_iff.2 (hrest c hc)

/-- An IRI is what is left of it without separators at its end, and those
separators. -/
theorem exists_append_trimSeparators (iri : Text) :
    ∃ rest, iri = trimSeparators iri ++ rest ∧ Separators rest ∧
      Trimmed (trimSeparators iri) := by
  refine ⟨iri.rtakeWhile isSeparator, List.rdropWhile_append_rtakeWhile.symm, ?_, ?_⟩
  · intro c hc
    exact isSeparator_iff.1 (List.mem_rtakeWhile_imp hc)
  · intro c hc
    exact isSeparator_eq_false_iff.1 (Text.getLast?_rdropWhile isSeparator iri c hc)

theorem shortForm_of_separators {iri : Text} (hiri : Separators iri) :
    shortForm iri = iri := by
  have htrim : trimSeparators iri = [] := List.rdropWhile_eq_nil_iff.2 fun c hc =>
    isSeparator_iff.2 (hiri c hc)
  simp [shortForm, htrim, afterLast?]

namespace NamedPiece

variable {iri front name rest : Text}

theorem trimSeparators_eq (piece : NamedPiece iri front name rest) :
    trimSeparators iri = front ++ name := by
  rw [piece.iri_eq]
  refine trimSeparators_append ?_ piece.rest_separators
  intro c hc
  rw [List.getLast?_append_of_ne_nil front piece.name_ne_nil] at hc
  constructor
  · rintro rfl
    exact piece.last_ne_slash hc
  · rintro rfl
    exact piece.no_hash (List.mem_of_getLast? hc)

/-- The conditions on a short name leave no choice. -/
theorem shortForm_eq (piece : NamedPiece iri front name rest) : shortForm iri = name := by
  have hshort : ((afterLast? '#' (front ++ name)).or (afterLast? '/' (front ++ name))).getD
      (front ++ name) = name := by
    by_cases hhash : '#' ∈ front ++ name
    · -- The name holds no `#`, so there is something in front, which ends in one.
      have hlast : front.getLast? = some '#' := by
        rcases piece.fragment hhash with rfl | hlast
        · exact absurd hhash piece.no_hash
        · exact hlast
      rw [afterLast?_append hlast piece.no_hash, Option.some_or, Option.getD_some]
    · obtain ⟨hfront, hslash⟩ := piece.segment hhash
      rw [afterLast?_of_not_mem hhash, Option.none_or]
      rcases hfront with rfl | hlast
      · rw [List.nil_append, afterLast?_of_not_mem hslash, Option.getD_none]
      · rw [afterLast?_append hlast hslash, Option.getD_some]
  unfold shortForm
  simp only [piece.trimSeparators_eq, hshort]
  rw [if_neg (by simpa using piece.name_ne_nil)]

theorem append_separators (piece : NamedPiece iri front name rest) {tail : Text}
    (htail : Separators tail) : NamedPiece (iri ++ tail) front name (rest ++ tail) :=
  { piece with
    iri_eq := by rw [piece.iri_eq, List.append_assoc]
    rest_separators := by
      intro c hc
      rcases List.mem_append.1 hc with hc | hc
      · exact piece.rest_separators c hc
      · exact htail c hc }

end NamedPiece

/-- A text that does not end in a separator, cut behind the last `#`, or behind
the last `/` if it has no `#`, or nowhere. -/
theorem namedPiece_of_cut {iri front name rest : Text} (hiri : iri = front ++ name ++ rest)
    (htrimmed : Trimmed (front ++ name)) (hrest : Separators rest) (hname : name ≠ [])
    (hhash : '#' ∉ name)
    (hcut : front.getLast? = some '#' ∨
      '#' ∉ front ++ name ∧ (front = [] ∨ front.getLast? = some '/') ∧ '/' ∉ name) :
    NamedPiece iri front name rest where
  iri_eq := hiri
  name_ne_nil := hname
  no_hash := hhash
  last_ne_slash := by
    intro hslash
    rw [← List.getLast?_append_of_ne_nil front hname] at hslash
    exact (htrimmed '/' hslash).1 rfl
  rest_separators := hrest
  fragment := by
    intro hmem
    rcases hcut with hfront | ⟨hnone, _⟩
    · exact Or.inr hfront
    · exact absurd hmem hnone
  segment := by
    intro hnone
    rcases hcut with hfront | ⟨_, hsegment⟩
    · exact absurd (List.mem_append_left name (List.mem_of_getLast? hfront)) hnone
    · exact hsegment

/-- Something is left behind a separator inside a text that does not end in
one. -/
theorem Trimmed.ne_nil_of_cut {front name : Text} {c : Char} (htrimmed : Trimmed (front ++ name))
    (hfront : front.getLast? = some c) (hc : c = '/' ∨ c = '#') : name ≠ [] := by
  rintro rfl
  rw [List.append_nil] at htrimmed
  obtain ⟨hslash, hhash⟩ := htrimmed c hfront
  exact hc.elim hslash hhash

/-- Every IRI that is more than separators has a short name. -/
theorem exists_namedPiece {iri : Text} (hiri : ¬ Separators iri) :
    ∃ front name rest, NamedPiece iri front name rest := by
  obtain ⟨rest, happend, hrest, htrimmed⟩ := exists_append_trimSeparators iri
  generalize trimSeparators iri = trimmed at happend htrimmed
  subst iri
  by_cases hhash : '#' ∈ trimmed
  · obtain ⟨front, name, rfl, hfront, hname⟩ := exists_append_of_last hhash
    have hne := htrimmed.ne_nil_of_cut hfront (Or.inr rfl)
    exact ⟨front, name, rest, namedPiece_of_cut rfl htrimmed hrest hne hname (Or.inl hfront)⟩
  · by_cases hslash : '/' ∈ trimmed
    · obtain ⟨front, name, rfl, hfront, hname⟩ := exists_append_of_last hslash
      have hne := htrimmed.ne_nil_of_cut hfront (Or.inl rfl)
      have hfree : '#' ∉ name := fun hmem => hhash (List.mem_append_right front hmem)
      exact ⟨front, name, rest, namedPiece_of_cut rfl htrimmed hrest hne hfree
        (Or.inr ⟨hhash, Or.inr hfront, hname⟩)⟩
    · have hne : trimmed ≠ [] := by
        rintro rfl
        exact hiri hrest
      exact ⟨[], trimmed, rest, namedPiece_of_cut rfl htrimmed hrest hne hhash
        (Or.inr ⟨hhash, Or.inl rfl, hslash⟩)⟩

/-- An entity whose IRI is more than separators is written by the one short name
that can be cut out of the IRI, and separators behind the IRI do not change it.
Any other IRI is written in full. -/
theorem Entity.short_iff_namedPiece (entity : Entity) :
    (¬ Separators entity.iri →
      (∀ name, name = Entity.short entity ↔
        ∃ front rest, NamedPiece entity.iri front name rest) ∧
      ∀ tail, Separators tail →
        Entity.short { entity with iri := entity.iri ++ tail } = Entity.short entity) ∧
      (Separators entity.iri → Entity.short entity = entity.iri) := by
  refine ⟨fun hiri => ?_, shortForm_of_separators⟩
  obtain ⟨front, found, rest, hpiece⟩ := exists_namedPiece hiri
  have hshort : Entity.short entity = found := hpiece.shortForm_eq
  rw [hshort]
  constructor
  · intro name
    constructor
    · rintro rfl
      exact ⟨front, rest, hpiece⟩
    · rintro ⟨_, _, hname⟩
      exact hname.shortForm_eq.symm.trans hshort
  · intro tail htail
    -- The longer IRI is cut at the same name, which leaves it no other.
    exact (hpiece.append_separators htail).shortForm_eq

/-- A fragment may hold slashes, a path is named by its last segment, and an IRI
of separators stays as it is. -/
theorem Entity.short_iff_namedPiece_slash :
    let fragment : Entity := ⟨.cls, "a/b#c#/d/e//#".toList⟩
    let path : Entity := ⟨.individual, "a//b/#/".toList⟩
    let bare : Entity := ⟨.cls, "/#/".toList⟩
    NamedPiece fragment.iri "a/b#c#".toList "/d/e".toList "//#".toList ∧
      "/d/e".toList = Entity.short fragment ∧
      Entity.short { fragment with iri := fragment.iri ++ "#/".toList } =
        Entity.short fragment ∧
      "b".toList = Entity.short path ∧ Entity.short bare = bare.iri := by
  intro fragment path bare
  obtain ⟨hname, htail⟩ := (Entity.short_iff_namedPiece fragment).1 (by decide)
  obtain ⟨hsegment, _⟩ := (Entity.short_iff_namedPiece path).1 (by decide)
  have hpiece : NamedPiece fragment.iri "a/b#c#".toList "/d/e".toList "//#".toList := by decide
  have hpath : NamedPiece path.iri "a//".toList "b".toList "/#/".toList := by decide
  exact ⟨hpiece, (hname _).2 ⟨_, _, hpiece⟩, htail _ (by decide), (hsegment _).2 ⟨_, _, hpath⟩,
    (Entity.short_iff_namedPiece bare).2 (by decide)⟩

end ClassExpr
