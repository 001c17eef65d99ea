/-
The word that was inserted is the word at the caret.

A word without delimiters that takes the place of the partial word is found
again as a whole, with the same text before it.  So the checker is asked the
same, and the candidates that are left are those of before that begin with the
new word.  The inserted one is among them, and completing it again changes
nothing.
-/
import ClassExpr.Proofs.CheckerQueries
import ClassExpr.Proofs.RowsAtCaret

namespace ClassExpr

namespace CandidateSource

theorem gather_ofVocabulary (indexed inserted : Rendering) (vocabulary : Vocabulary)
    (start : Text) (expectations : Expectations) :
    (ofVocabulary indexed inserted vocabulary).gather start expectations =
      (expectations.keywords.filter fun word => word.startsWithFolded start).map .keyword ++
        (vocabulary.filter fun entity => expectations.kinds.contains entity.kind &&
          (indexed entity).startsWithFolded start).map (.ofEntity inserted) := by
  rw [← EntityIndex.find_ofVocabulary]
  rfl

/-- What is offered for a longer word is what was offered for a shorter one and
begins with the longer one. -/
theorem gather_of_startsWithFolded {long short : Text}
    (hshort : long.startsWithFolded short = true) (render : Rendering)
    (vocabulary : Vocabulary) (expectations : Expectations) :
    (ofVocabulary render render vocabulary).gather long expectations =
      ((ofVocabulary render render vocabulary).gather short expectations).filter
        fun candidate => candidate.insertion.startsWithFolded long := by
  have hboth : ∀ text : Text, (text.startsWithFolded long && text.startsWithFolded short) =
      text.startsWithFolded long := by
    intro text
    cases hlong : text.startsWithFolded long with
    | false => rfl
    | true => exact Text.startsWithFolded_trans hlong hshort
  rw [gather_ofVocabulary, gather_ofVocabulary, List.filter_append, List.filter_map,
    List.filter_map, List.filter_filter, List.filter_filter]
  congr 2
  · apply List.filter_congr
    intro word _
    exact (hboth word).symm
  · apply List.filter_congr
    intro entity _
    rw [Bool.and_left_comm]
    exact congrArg _ (hboth (render entity)).symm

end CandidateSource

namespace Completer

variable {completer : Completer Buffer} {found : PartialWord}

/-- Putting the word at the caret in its own place changes nothing. -/
theorem insertWord_self (hfound : completer.partialWord = .ok (some found)) :
    completer.insertWord found.text = (completer, none) := by
  obtain ⟨hcaret, hstart, _⟩ := Delimiters.locate_eq_some hfound
  have htext : found.replaceIn completer.document.text found.text = completer.document.text :=
    (PartialWord.replaceIn_eq_self_iff hfound found.text).2 rfl
  have hend : found.start + found.text.length = completer.document.caret := by
    rw [Delimiters.length_text_of_locate hfound, PartialWord.start_add_length (hcaret ▸ hstart)]
    exact hcaret
  rw [insertWord_of_partialWord hfound, htext, hend]

theorem take_start_of_insertWord (hfound : completer.partialWord = .ok (some found))
    (word : Text) :
    (completer.insertWord word).1.document.text.take found.start =
      completer.document.text.take found.start := by
  obtain ⟨_, hstart, hlength⟩ := Delimiters.locate_eq_some hfound
  have hhead : (completer.document.text.take found.start).length = found.start :=
    List.length_take_of_le (hstart.trans hlength)
  rw [insertWord_of_partialWord hfound]
  dsimp only
  rw [PartialWord.replaceIn, List.append_assoc, List.take_left' hhead]

section

variable {word : Text} (hfound : completer.partialWord = .ok (some found))
  (hword : completer.delimiters.Avoids word) (hpos : 0 < found.start + word.length)
include hfound hword hpos

/-- A word without delimiters is found where it was put. -/
theorem partialWord_of_insertWord :
    (completer.insertWord word).1.partialWord =
      .ok (some ⟨found.start, found.start + word.length, word⟩) := by
  obtain ⟨front, happend, hbegin, hfront, _⟩ := Delimiters.exists_append_of_locate hfound
  have hhead : completer.document.text.take found.start = front :=
    Delimiters.take_start_of_locate hfound happend hbegin
  have hsplit : found.replaceIn completer.document.text word =
      (front ++ word) ++ completer.document.text.drop found.caret := by
    rw [PartialWord.replaceIn, hhead]
  have hlength : (front ++ word).length = found.start + word.length := by
    rw [List.length_append, hbegin]
  rw [insertWord_of_partialWord hfound, partialWord]
  have hlocate : completer.delimiters.locate (found.replaceIn completer.document.text word)
      (found.start + word.length) =
        .ok (some ⟨front.length, found.start + word.length, word⟩) := by
    refine Delimiters.locate_eq_of_append hpos ?_ ?_ hfront hword
    · rw [hsplit, List.length_append, hlength]
      exact Nat.le_add_right _ _
    · rw [hsplit, List.take_left' hlength]
  rw [← hbegin] at hlocate
  exact hlocate

/-- Behind the same text before it, the new word takes the place of the old
one in the look-up. -/
theorem lookup_of_insertWord :
    (completer.insertWord word).1.lookup =
      completer.candidatesAfter (completer.document.text.take found.start) word := by
  rw [lookup_of_partialWord (partialWord_of_insertWord hfound hword hpos),
    take_start_of_insertWord hfound, insertWord_of_partialWord hfound]
  rfl

end

theorem candidatesAfter_of_startsWithFolded {render : Rendering} {vocabulary : Vocabulary}
    (hsource : completer.source = .ofVocabulary render render vocabulary) {long short : Text}
    (hshort : long.startsWithFolded short = true) (before : Text) :
    (completer.candidatesAfter before long).candidates =
      (completer.candidatesAfter before short).candidates.filter
        fun candidate => candidate.insertion.startsWithFolded long := by
  unfold candidatesAfter
  dsimp only
  rw [hsource]
  cases completer.probe.ask before with
  | error fault => rfl
  | ok finding =>
      cases finding with
      | accepted => rfl
      | expected expectations =>
          exact CandidateSource.gather_of_startsWithFolded hshort render vocabulary expectations

/-- After a candidate was inserted, the candidates are those of before that
begin with it. -/
theorem candidates_of_insertWord {render : Rendering} {vocabulary : Vocabulary}
    (hsource : completer.source = .ofVocabulary render render vocabulary)
    (hfound : completer.partialWord = .ok (some found)) {candidate : Candidate}
    (hcandidate : candidate ∈ completer.lookup.candidates)
    (hword : completer.delimiters.Avoids candidate.insertion)
    (hpos : 0 < found.start + candidate.insertion.length) :
    (completer.insertWord candidate.insertion).1.lookup.candidates =
      completer.lookup.candidates.filter
        fun other => other.insertion.startsWithFolded candidate.insertion := by
  obtain ⟨typed, expectations, htyped, hgather⟩ :=
    gather_of_lookup_ne_nil (List.ne_nil_of_mem hcandidate)
  obtain rfl := Option.some.inj (Except.ok.inj (hfound.symm.trans htyped))
  have hbegins : candidate.insertion.startsWithFolded found.text = true := by
    rw [hgather, hsource] at hcandidate
    exact Text.startsWithFolded_iff.2 (CandidateSource.prefix_of_mem_gather hcandidate)
  rw [lookup_of_insertWord hfound hword hpos, lookup_of_partialWord hfound]
  exact candidatesAfter_of_startsWithFolded hsource hbegins _

/-- A word without delimiters that takes the place of the partial word is the
partial word then, from the same start on.  The checker is asked the same as
before, and if the word was that of a candidate of a vocabulary, it is still
among the candidates. -/
theorem insertWord_relocated (completer : Completer Buffer) (found : PartialWord) (word : Text)
    (hfound : completer.partialWord = .ok (some found))
    (hword : completer.delimiters.Avoids word) (hpos : 0 < found.start + word.length) :
    let after := (completer.insertWord word).1
    (completer.insertWord word).2 = none ∧
      after.partialWord = .ok (some ⟨found.start, found.start + word.length, word⟩) ∧
      after.lookup.checked =
        [completer.document.text.take found.start ++ completer.probe.sentinel] ∧
      completer.lookup.checked = after.lookup.checked ∧
      ∀ (render : Rendering) (vocabulary : Vocabulary),
        completer.source = .ofVocabulary render render vocabulary →
        ∀ candidate ∈ completer.lookup.candidates, candidate.insertion = word →
          candidate ∈ after.lookup.candidates := by
  intro after
  have hquery : after.lookup.checked =
      [completer.document.text.take found.start ++ completer.probe.sentinel] := by
    rw [lookup_of_insertWord hfound hword hpos, candidatesAfter_checked]
    rfl
  refine ⟨?_, partialWord_of_insertWord hfound hword hpos, hquery, ?_, ?_⟩
  · rw [insertWord_of_partialWord hfound]
  · rw [hquery, lookup_of_partialWord hfound, candidatesAfter_checked]
    rfl
  · rintro render vocabulary hsource candidate hcandidate rfl
    rw [candidates_of_insertWord hsource hfound hcandidate hword hpos, List.mem_filter]
    exact ⟨hcandidate, candidate.insertion.startsWithFolded_self⟩

/-- A class is inserted in the middle of a text and found again, although another
one is written the same in lower case. -/
theorem insertWord_relocated_middle :
    let checker : Checker := fun _ =>
      .expected { kinds := { classes := true }, keywords := ["some".toList] }
    let vocabulary : Vocabulary := [⟨.cls, "menu#Soße".toList⟩, ⟨.cls, "menu#SOẞE".toList⟩]
    let source : CandidateSource := .ofVocabulary Entity.short Entity.short vocabulary
    let completer := attach ((Buffer.ofText "über so, x".toList).withCaret 7) checker source {}
    let found : PartialWord := ⟨5, 7, "so".toList⟩
    let chosen : Candidate := .ofEntity Entity.short ⟨.cls, "menu#Soße".toList⟩
    let after := (completer.insertWord "Soße".toList).1
    completer.partialWord = .ok (some found) ∧ chosen ∈ completer.lookup.candidates ∧
      (completer.insertWord "Soße".toList).2 = none ∧
      after.partialWord = .ok (some ⟨5, 9, "Soße".toList⟩) ∧
      after.lookup.checked = ["über **".toList] ∧
      completer.lookup.checked = after.lookup.checked ∧ chosen ∈ after.lookup.candidates := by
  intro checker vocabulary source completer found chosen after
  have hfound : completer.partialWord = .ok (some found) := by decide
  have hchosen : chosen ∈ completer.lookup.candidates := by decide
  obtain ⟨hdone, hword, hquery, hsame, hkept⟩ := insertWord_relocated completer found
    "Soße".toList hfound (by decide) (by decide)
  exact ⟨hfound, hchosen, hdone, hword, hquery, hsame,
    hkept Entity.short vocabulary rfl chosen hchosen rfl⟩

/-- If a trigger inserts a word of a vocabulary without delimiters, a second
trigger inserts the same word and leaves everything as it is. -/
theorem trigger_again_of_inserted (completer : Completer Buffer) (render : Rendering)
    (vocabulary : Vocabulary) (word : Text)
    (hsource : completer.source = .ofVocabulary render render vocabulary)
    (hinserted : completer.trigger.outcome = .inserted word) (hne : word ≠ [])
    (hword : completer.delimiters.Avoids word) :
    let once := completer.trigger.completer
    once.trigger.outcome = .inserted word ∧ once.trigger.completer = once := by
  intro once
  obtain ⟨hattached, candidate, hsingle, rfl⟩ :=
    (completer.trigger_outcome_eq_inserted_iff word).1 hinserted
  obtain ⟨found, hfound⟩ := partialWord_of_candidates (hsingle ▸ List.cons_ne_nil candidate [])
  have hpos : 0 < found.start + candidate.insertion.length :=
    Nat.add_pos_right _ (List.length_pos_iff.2 hne)
  have honce : once =
      { (completer.insertWord candidate.insertion).1 with popup := completer.popup.hide } := by
    change completer.trigger.completer = _
    rw [trigger_of_single hattached hsingle, complete, insertWord_of_partialWord hfound]
  -- The popup makes no difference to what is found at the caret.
  have hagain : once.partialWord =
      .ok (some ⟨found.start, found.start + candidate.insertion.length, candidate.insertion⟩) := by
    rw [honce]
    exact partialWord_of_insertWord hfound hword hpos
  have hstill : once.lookup.candidates = [candidate] := by
    have hcandidate : candidate ∈ completer.lookup.candidates := by
      rw [hsingle]
      exact List.mem_singleton_self candidate
    have hkept := candidates_of_insertWord hsource hfound hcandidate hword hpos
    rw [honce]
    exact hkept.trans (by simp [hsingle, Text.startsWithFolded_self])
  have hattachedOnce : once.attached = true := by
    rw [honce, insertWord_of_partialWord hfound]
    exact hattached
  have hhidden : once.popup.hide = once.popup := by
    rw [honce]
    rfl
  rw [trigger_of_single hattachedOnce hstill, complete, insertWord_self hagain]
  dsimp only
  rw [hhidden]
  exact ⟨rfl, rfl⟩

/-- The last letter of the inserted word is lower-cased as a final sigma. -/
theorem trigger_again_of_inserted_sigma :
    let checker : Checker := fun _ => .expected { kinds := { classes := true } }
    let vocabulary : Vocabulary := [⟨.cls, "menu#ΟΔΟΣ".toList⟩, ⟨.cls, "menu#Pizza".toList⟩]
    let source : CandidateSource := .ofVocabulary Entity.short Entity.short vocabulary
    let completer := attach ((Buffer.ofText "not οδ or x".toList).withCaret 6) checker source {}
    let once := completer.trigger.completer
    completer.trigger.outcome = .inserted "ΟΔΟΣ".toList ∧
      once.document.text = "not ΟΔΟΣ or x".toList ∧
      once.trigger.outcome = .inserted "ΟΔΟΣ".toList ∧ once.trigger.completer = once := by
  intro checker vocabulary source completer once
  have hinserted : completer.trigger.outcome = .inserted "ΟΔΟΣ".toList := by decide
  exact ⟨hinserted, by decide, trigger_again_of_inserted completer Entity.short vocabulary _ rfl
    hinserted (by decide) (by decide)⟩

end Completer

end ClassExpr
