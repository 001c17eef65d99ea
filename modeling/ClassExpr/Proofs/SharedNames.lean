/-
Entities that are written alike.

The index of a vocabulary keeps all its entities, the table of names only one
kind for each name.  So of the entities that share a name the checker knows the
last one, and takes the name for one of that kind whichever of them was meant.
-/
import ClassExpr.Proofs.VocabularyWords
import ClassExpr.Terminal.Editor

namespace ClassExpr

/-- The last entity of a vocabulary that is written with a name. -/
def Vocabulary.lastNamed? (render : Rendering) (vocabulary : Vocabulary) (name : Text) :
    Option Entity :=
  (vocabulary.filter fun entity => render entity == name).getLast?

namespace NameTable

/-- The table knows a name by the kind of the last entity written so. -/
theorem kind?_ofVocabulary (render : Rendering) (vocabulary : Vocabulary) (name : Token) :
    (ofVocabulary render vocabulary).kind? name =
      (vocabulary.lastNamed? render name).map Entity.kind := by
  induction vocabulary using List.reverseRecOn with
  | nil => rfl
  | append_singleton vocabulary last ih =>
      rw [ofVocabulary_concat]
      by_cases hname : render last = name
      · subst name
        simp [Vocabulary.lastNamed?]
      · rw [kind?_insert_of_ne _ _ (Ne.symm hname), ih]
        simp [Vocabulary.lastNamed?, hname]

end NameTable

namespace Vocabulary

theorem exists_lastNamed? {render : Rendering} {vocabulary : Vocabulary} {entity : Entity}
    (hentity : entity ∈ vocabulary) :
    ∃ last, vocabulary.lastNamed? render (render entity) = some last := by
  have hmem : entity ∈ vocabulary.filter fun other => render other == render entity := by
    simp [hentity]
  exact ⟨_, List.getLast?_eq_some_getLast (List.ne_nil_of_mem hmem)⟩

end Vocabulary

namespace Token

variable {name : Token}

theorem IsWord.ne_mark (hword : name.IsWord) {c : Char} (hmark : isPunctuation c = true) :
    name ≠ [c] := by
  rintro rfl
  have hchar := hword.2 c List.mem_cons_self
  rw [isWordChar, hmark] at hchar
  cases hchar

theorem IsWord.ofText_self (hword : name.IsWord) : ofText name = [name] := by
  have hscan := scan_word_detached hword (Or.inl rfl)
  rwa [List.append_nil] at hscan

/-- A word in braces is three tokens. -/
theorem IsWord.ofText_braced (hword : name.IsWord) :
    ofText ('\x7b' :: (name ++ ['\x7d'])) = [openSet, name, closeSet] := by
  have hpending : name.reverse.isEmpty = false := by simpa using hword.1
  have hclosed : ofText (name ++ ['\x7d']) = [name, closeSet] := by
    rw [ofText, scan_word hword.2, List.append_nil, scan_punctuation (by decide), flush, hpending,
      if_neg Bool.false_ne_true, List.reverse_reverse]
    rfl
  rw [ofText, scan_punctuation (by decide), hclosed]
  rfl

theorem IsWord.ofText_bounded (hword : name.IsWord) :
    ofText (name ++ " min 1".toList) = [name, Keyword.min.word, ['1']] := by
  have hscan := scan_word_detached hword (Or.inr rfl : Detached " min 1".toList)
  exact hscan

end Token

namespace NameTable

variable {names : NameTable} {name : Token}

section

variable (hword : name.IsWord) (hkeyword : ∀ keyword : Keyword, name ≠ keyword.word)
include hword hkeyword

/-- At the beginning of an expression a name stands for what the table says. -/
theorem recognise_cons_iff (rest : List Token) :
    recognise names (name :: rest) = .ok () ↔
      (names.kind? name = some .cls ∧ ParseState.run names ⟨.complete, 0⟩ rest = .ok ()) ∨
        (names.kind? name = some .objectProperty ∧
          ParseState.run names ⟨.objectRestriction, 0⟩ rest = .ok ()) ∨
        (names.kind? name = some .dataProperty ∧
          ParseState.run names ⟨.dataRestriction, 0⟩ rest = .ok ()) := by
  have hnot : name ≠ Keyword.not.word := hkeyword .not
  have hgroup : name ≠ Token.openGroup := hword.ne_mark (by decide)
  have hset : name ≠ Token.openSet := hword.ne_mark (by decide)
  simp only [recognise, ParseState.run, ParseState.start, ParseState.step,
    ParseState.beginOperand, if_neg hnot, if_neg hgroup, if_neg hset]
  cases names.kind? name with
  | none => simp
  | some kind => cases kind <;> simp

/-- A name alone is an expression exactly if it is known as that of a class. -/
theorem check_name_iff : names.check name = .accepted ↔ names.kind? name = some .cls := by
  rw [names.check_accepts_iff, hword.ofText_self, recognise_cons_iff hword hkeyword]
  simp [ParseState.run, ParseState.finish]

/-- A name with a bound is one exactly if it is known as that of a property. -/
theorem check_bounded_iff :
    names.check (name ++ " min 1".toList) = .accepted ↔
      names.kind? name = some .objectProperty ∨ names.kind? name = some .dataProperty := by
  have hclass : ParseState.run names ⟨.complete, 0⟩ [Keyword.min.word, ['1']] =
      .error Phase.complete.expectations := rfl
  have hobject : ParseState.run names ⟨.objectRestriction, 0⟩ [Keyword.min.word, ['1']] =
      .ok () := rfl
  have hdata : ParseState.run names ⟨.dataRestriction, 0⟩ [Keyword.min.word, ['1']] =
      .ok () := rfl
  rw [names.check_accepts_iff, hword.ofText_bounded, recognise_cons_iff hword hkeyword, hclass,
    hobject, hdata]
  simp

end

/-- A name in braces is one exactly if it is known as that of an individual. -/
theorem check_braced_iff (hword : name.IsWord) :
    names.check ('\x7b' :: (name ++ ['\x7d'])) = .accepted ↔
      names.kind? name = some .individual := by
  have hopen : ParseState.start.step names Token.openSet = .ok ⟨.member, 0⟩ := rfl
  have hclose : ParseState.run names ⟨.memberEnd, 0⟩ [Token.closeSet] = .ok () := rfl
  rw [names.check_accepts_iff, hword.ofText_braced, recognise,
    ParseState.run_cons_of_step hopen]
  constructor
  · intro hrun
    obtain ⟨_, hstep, _⟩ := ParseState.exists_step_of_run hrun
    exact (ParseState.name_eq_ok_iff.1 hstep).1
  · intro hkind
    have hmember : ParseState.step names ⟨.member, 0⟩ name = .ok ⟨.memberEnd, 0⟩ :=
      ParseState.name_eq_ok_iff.2 ⟨hkind, rfl⟩
    rw [ParseState.run_cons_of_step hmember, hclose]

/-- An entity that the index finds shares its name with the last one written
so.  The checker takes the name for that of a class, an individual or a property
exactly if the last one is of that kind. -/
theorem recognised_iff_lastNamed (render : Rendering) (vocabulary : Vocabulary) (start : Text)
    (kinds : KindSet) (entity : Entity)
    (hfound : entity ∈ (EntityIndex.ofVocabulary render vocabulary).find start kinds)
    (hword : Token.IsWord (render entity))
    (hkeyword : ∀ keyword : Keyword, render entity ≠ keyword.word) :
    let names := ofVocabulary render vocabulary
    let name := render entity
    ∃ last, vocabulary.lastNamed? render name = some last ∧
      (names.check name = .accepted ↔ last.kind = .cls) ∧
      (names.check ('\x7b' :: (name ++ ['\x7d'])) = .accepted ↔ last.kind = .individual) ∧
      (names.check (name ++ " min 1".toList) = .accepted ↔
        last.kind = .objectProperty ∨ last.kind = .dataProperty) := by
  intro names name
  obtain ⟨hentity, _, _⟩ := EntityIndex.mem_find.1 hfound
  obtain ⟨last, hlast⟩ := Vocabulary.exists_lastNamed? hentity
  have hkind : names.kind? name = some last.kind := by
    rw [kind?_ofVocabulary, hlast, Option.map_some]
  refine ⟨last, hlast, ?_, ?_, ?_⟩
  · rw [check_name_iff hword hkeyword, hkind, Option.some.injEq]
  · rw [check_braced_iff hword, hkind, Option.some.injEq]
  · rw [check_bounded_iff hword hkeyword, hkind, Option.some.injEq, Option.some.injEq]

/-- An individual that is written like a later class. -/
theorem recognised_iff_lastNamed_class :
    let vocabulary : Vocabulary :=
      [⟨.individual, "place#Rome".toList⟩, ⟨.cls, "menu#Rome".toList⟩,
       ⟨.individual, "place#Italy".toList⟩]
    let names := ofVocabulary Entity.short vocabulary
    let entity : Entity := ⟨.individual, "place#Rome".toList⟩
    entity ∈ (EntityIndex.ofVocabulary Entity.short vocabulary).find "ro".toList
        { individuals := true } ∧
      ∃ last, vocabulary.lastNamed? Entity.short "Rome".toList = some last ∧
        (names.check "Rome".toList = .accepted ↔ last.kind = .cls) ∧
        (names.check "\x7bRome\x7d".toList = .accepted ↔ last.kind = .individual) ∧
        (names.check "Rome min 1".toList = .accepted ↔
          last.kind = .objectProperty ∨ last.kind = .dataProperty) := by
  intro vocabulary names entity
  have hfound : entity ∈ (EntityIndex.ofVocabulary Entity.short vocabulary).find "ro".toList
      { individuals := true } := by decide
  have hkeyword : ∀ keyword : Keyword, entity.short ≠ keyword.word := by
    intro keyword
    cases keyword <;> decide
  exact ⟨hfound, recognised_iff_lastNamed Entity.short vocabulary _ _ entity hfound (by decide)
    hkeyword⟩

/-- A class that is written like a later individual is found and offered, but
the checker of the same editor refuses its name. -/
theorem shared_name_refused :
    let vocabulary : Vocabulary :=
      [⟨.cls, "menu#Rome".toList⟩, ⟨.individual, "place#Rome".toList⟩]
    let completer := (Editor.new [] vocabulary {}).completer
    let entity : Entity := ⟨.cls, "menu#Rome".toList⟩
    entity ∈ completer.source.find "Ro".toList { classes := true } ∧
      completer.source.render entity = "Rome".toList ∧ Token.IsWord "Rome".toList ∧
      (∀ keyword ∈ Keyword.all, "Rome".toList ≠ keyword.word) ∧
      completer.probe.checker "Rome".toList =
        .expected Phase.operand.expectations := by
  decide

end NameTable

end ClassExpr
