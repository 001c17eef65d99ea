/-
What a refused completion leaves in a pane.

A completion deletes the partial word, types another one and sends the cursor
to its end.  The cursor cannot be sent to every offset, and nothing is taken
back when it cannot.  If the start of the word is out of its reach, nothing has
happened yet; if only the end of the new word is, the word is already there.
-/
import ClassExpr.Proofs.Choice
import ClassExpr.Proofs.ExactReplacement

namespace ClassExpr

namespace Completer

section

variable {pane : Pane} {found : PartialWord}

/-- Where the cursor cannot be sent to the start of the word, the completion is
refused before anything is deleted. -/
theorem replaceWord_of_not_cursorReaches (hwell : pane.area.WellFormed)
    (hstart : found.start ≤ found.caret) (hcaret : found.caret ≤ pane.area.text.length)
    (hreach : ¬ pane.area.text.CursorReaches found.start) (word : Text) :
    replaceWord pane found word = .refused pane (.outOfRange found.start 0) := by
  have hrange : found.start + found.length ≤ pane.area.text.length :=
    (PartialWord.start_add_length hstart).trans_le hcaret
  have hremove : pane.remove found.start found.length =
      .refused pane (.outOfRange found.start 0) := by
    unfold Pane.remove
    rw [if_neg (pane.not_length_lt hrange), Pane.setCaret_of_not_cursorReaches hwell hreach,
      Edited.andThen_refused]
  change ((pane.remove found.start found.length).andThen fun pane =>
    pane.insert found.start word).andThen (fun pane =>
      pane.setCaret (found.start + word.length)) = _
  rw [hremove, Edited.andThen_refused, Edited.andThen_refused]

/-- Within its reach the word is replaced, whether or not the cursor can then
be sent to the end of the new one. -/
theorem replaceWord_of_cursorReaches (hwell : pane.area.WellFormed)
    (hselection : pane.area.selection = none) {delimiters : Delimiters}
    (hlocate : delimiters.locate pane.area.text pane.area.caret = .ok (some found))
    (hreach : pane.area.text.CursorReaches found.start) (word : Text) :
    (replaceWord pane found word).document.area.text =
        found.replaceIn pane.area.text (TextArea.typed word) ∧
      ((replaceWord pane found word).fault? = none ↔
        (found.replaceIn pane.area.text (TextArea.typed word)).CursorReaches
          (found.start + word.length)) := by
  obtain ⟨hcaret, hstart, hinside⟩ := Delimiters.locate_eq_some hlocate
  obtain ⟨position, hholds, hoffset, hrow, hcol⟩ := Pane.exists_of_cursorReaches hwell hreach
  have hmark : pane.area.mark = found.start ∨ pane.area.mark = found.caret :=
    Or.inr ((TextArea.mark_of_selection_eq_none hselection).trans hcaret.symm)
  obtain ⟨area, harea, _, hcut, hresult⟩ := exists_replaceWord_eq_setCaret hwell
    (hcaret ▸ hstart) (hcaret ▸ hinside) hmark hholds hoffset hrow hcol word
  have htext : area.text = found.replaceIn pane.area.text (TextArea.typed word) := hcut.text
  have hset := Pane.setCaret_text { pane with area } harea (found.start + word.length)
  rw [hresult, ← htext]
  exact hset

end

/-- The completion with a word is refused only when the word is already in: the
cursor can be sent to the start of the partial word, but not to the end of the
new one, and the two are not the same. -/
def Strands (completer : Completer Pane) (word : Text) : Prop :=
  ∃ found, completer.partialWord = .ok (some found) ∧
    (Surface.text completer.document).CursorReaches found.start ∧
    ¬ (found.replaceIn (Surface.text completer.document)
        (TextArea.typed word)).CursorReaches (found.start + word.length) ∧
    TextArea.typed word ≠ found.text

theorem insertWord_strands_iff {completer : Completer Pane}
    (hwell : completer.document.area.WellFormed)
    (hselection : completer.document.area.selection = none) (word : Text) :
    ((completer.insertWord word).2 ≠ none ∧
        Surface.text (completer.insertWord word).1.document ≠ Surface.text completer.document) ↔
      completer.Strands word := by
  unfold Strands insertWord
  cases hword : completer.partialWord with
  | error fault => simp
  | ok found? =>
      cases found? with
      | none => simp
      | some found =>
          have hlocate : completer.delimiters.locate completer.document.area.text
              completer.document.area.caret = .ok (some found) := by
            rw [← Pane.caret_eq]
            exact hword
          obtain ⟨hcaret, hstart, hinside⟩ := Delimiters.locate_eq_some hlocate
          have hsame := found.replaceIn_eq_self_iff hlocate (TextArea.typed word)
          dsimp only
          by_cases hreach : completer.document.area.text.CursorReaches found.start
          · obtain ⟨htext, hdone⟩ :=
              replaceWord_of_cursorReaches hwell hselection hlocate hreach word
            have hleft : Surface.text (replaceWord completer.document found word).document =
                found.replaceIn completer.document.area.text (TextArea.typed word) := htext
            constructor
            · rintro ⟨hfault, hchanged⟩
              exact ⟨found, rfl, hreach, fun h => hfault (hdone.2 h),
                fun h => hchanged (hleft.trans (hsame.2 h))⟩
            · rintro ⟨_, ⟨⟩, _, hfar, hother⟩
              exact ⟨fun h => hfar (hdone.1 h), fun h => hother (hsame.1 (hleft.symm.trans h))⟩
          · rw [replaceWord_of_not_cursorReaches hwell (hcaret ▸ hstart) (hcaret ▸ hinside) hreach]
            constructor
            · rintro ⟨_, hchanged⟩
              exact absurd rfl hchanged
            · rintro ⟨_, ⟨⟩, hreach', _⟩
              exact absurd hreach' hreach

/-- However the text was edited before, a completion without a selection that
reports no insertion has changed the text exactly if its word is left stranded
without the cursor. -/
theorem text_changed_without_insertion_iff (text : Text) (edits : List Pane.Edit)
    (completer : Completer Pane) (hpane : completer.document = (Pane.ofText text).run edits)
    (hselection : completer.document.area.selection = none) :
    (∀ word, ((completer.insertWord word).2 ≠ none ∧
        Surface.text (completer.insertWord word).1.document ≠ Surface.text completer.document) ↔
      completer.Strands word) ∧
    ∀ operation, ((∀ word, (completer.perform operation).outcome ≠ .inserted word) ∧
        Surface.text (completer.perform operation).completer.document ≠
          Surface.text completer.document) ↔
      ∃ candidate, completer.choice? operation = some candidate ∧
        completer.Strands candidate.insertion := by
  have hwell : completer.document.area.WellFormed := by
    rw [hpane]
    exact Pane.wellFormed_run text edits
  have hinsert := completer.insertWord_strands_iff hwell hselection
  refine ⟨hinsert, fun operation => ?_⟩
  have hcarries := completer.perform_carriesOut operation
  cases hchoice : completer.choice? operation with
  | none =>
      rw [hchoice] at hcarries
      rw [hcarries.document_of_none]
      simp
  | some candidate =>
      rw [hchoice] at hcarries
      have houtcome : (∀ word, (completer.perform operation).outcome ≠ .inserted word) ↔
          (completer.insertWord candidate.insertion).2 ≠ none := by
        rw [hcarries.outcome_of_some]
        cases (completer.insertWord candidate.insertion).2 with
        | none => simp
        | some fault => simp
      rw [hcarries.document_of_some, houtcome, hinsert candidate.insertion]
      simp

/-- A carriage return at the end of a word is not typed, so the cursor cannot be
sent behind it. -/
theorem text_changed_without_insertion_iff_return :
    let completer : Completer Pane :=
      attach (Pane.ofText "P".toList) (fun _ => .accepted)
        (CandidateSource.ofVocabulary Entity.short Entity.short []) {}
    completer.document.area.selection = none ∧
      (completer.insertWord "X\r".toList).2 ≠ none ∧
      Surface.text (completer.insertWord "X\r".toList).1.document ≠ "P".toList := by
  intro completer
  have hchanged := text_changed_without_insertion_iff "P".toList [] completer rfl rfl
  refine ⟨rfl, (hchanged.1 "X\r".toList).2 ?_⟩
  exact ⟨⟨0, 1, "P".toList⟩, by decide, by decide, by decide, by decide⟩

/-- A word that crosses the last column is stranded. -/
theorem strands_across_last_column {completer : Completer Pane} (front part word : Text)
    (htext : Surface.text completer.document = front ++ part)
    (hcaret : Surface.caret completer.document = (front ++ part).length)
    (hfront : completer.delimiters.Ends front) (hpart : completer.delimiters.Avoids part)
    (hpos : 0 < (front ++ part).length) (hbreak : '\n' ∉ front ++ word)
    (hword : word.Typable) (hother : word ≠ part) (hstart : front.length ≤ maxCell)
    (hend : maxCell < (front ++ word).length) : completer.Strands word := by
  have hfound : completer.partialWord =
      .ok (some ⟨front.length, (front ++ part).length, part⟩) := by
    unfold partialWord
    rw [htext, hcaret]
    exact Delimiters.locate_eq_of_append hpos (Nat.le_refl _) List.take_length hfront hpart
  have htyped := TextArea.typed_eq_self hword
  refine ⟨_, hfound, ?_, ?_, htyped.symm ▸ hother⟩
  · rw [htext, Text.cursorReaches_length_iff fun h => hbreak (List.mem_append_left _ h)]
    exact hstart
  · rw [htext, htyped, PartialWord.replaceIn, List.take_left, ← List.length_append,
      Text.cursorReaches_length_iff hbreak]
    exact Nat.not_le.2 hend

theorem insertWord_strands_behind_blanks {blanks : Nat} (hstart : blanks ≤ maxCell)
    (hend : maxCell < blanks + 15) :
    let text : Text := List.replicate blanks ' ' ++ "P".toList
    let completer : Completer Pane :=
      attach (Pane.ofText text) (fun _ => .accepted)
        (CandidateSource.ofVocabulary Entity.short Entity.short []) {}
    completer.document.area.selection = none ∧
      (completer.insertWord "PizzaMargherita".toList).2 ≠ none ∧
      Surface.text (completer.insertWord "PizzaMargherita".toList).1.document ≠ text := by
  intro text completer
  have hwell : completer.document.area.WellFormed := TextArea.wellFormed_ofText text
  have htext : Surface.text completer.document = text := TextArea.text_ofText text
  have hcaret : Surface.caret completer.document = text.length :=
    (Pane.caret_eq _).trans (TextArea.caret_ofText text)
  have hfront : Delimiters.standard.Ends (List.replicate blanks ' ') := by
    intro c hc
    rw [List.eq_of_mem_replicate (List.mem_of_getLast? hc)]
    decide
  have hpart : Delimiters.standard.Avoids "P".toList := by
    intro c hc
    rw [List.mem_singleton.1 hc]
    decide
  have hstrands := strands_across_last_column (List.replicate blanks ' ') "P".toList
    "PizzaMargherita".toList htext hcaret hfront hpart (by simp) (by simp) (by decide) (by decide)
    (by simpa using hstart) (by simpa using hend)
  rw [← insertWord_strands_iff hwell rfl, htext] at hstrands
  exact ⟨rfl, hstrands⟩

/-- At the end of a long line the completion is refused, but the word is in the
text. -/
theorem insertWord_strands_in_long_line :
    let text : Text := List.replicate 65530 ' ' ++ "P".toList
    let completer : Completer Pane :=
      attach (Pane.ofText text) (fun _ => .accepted)
        (CandidateSource.ofVocabulary Entity.short Entity.short []) {}
    completer.document.area.selection = none ∧
      (completer.insertWord "PizzaMargherita".toList).2 ≠ none ∧
      Surface.text (completer.insertWord "PizzaMargherita".toList).1.document ≠ text :=
  insertWord_strands_behind_blanks (by decide) (by decide)

end Completer
end ClassExpr
