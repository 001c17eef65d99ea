/-
When a completion replaces the partial word and nothing else.

The word is deleted and another one typed in its place.  A selection that is
still active then decides what is deleted, so the completion is exact only if
the selection is empty or just the word.
-/
import ClassExpr.Proofs.PaneEdits
import ClassExpr.Proofs.WordAtCaret

namespace ClassExpr

namespace Completer

variable {pane : Pane} {found : PartialWord} {word : Text}

/-- A selection that is empty or ends where the deletion does is deleted with
it, and the cursor stays. -/
theorem deleted_cutAt {area : TextArea} (hwell : area.WellFormed) {start length : Nat}
    (hcaret : area.caret = start) (hrange : start + length ≤ area.text.length)
    (hmark : area.mark = start ∨ area.mark = start + length) :
    let left := if length = 0 then area else area.deleteText length
    left.cursor = area.cursor ∧ left.mark = left.caret ∧
      left.lines.CutAt area.cursor (area.text.take start) (area.text.drop (start + length)) := by
  subst hcaret
  by_cases hzero : length = 0
  · subst hzero
    rw [if_pos rfl]
    exact ⟨rfl, hmark.elim id id, hwell.cursor.cutAt⟩
  · rw [if_neg hzero]
    have hnone := TextArea.mark_of_selection_eq_none (area.deleteText_selection length)
    rcases hmark with heq | hword
    · obtain ⟨hcursor, hcut⟩ := hwell.deleteText_cutAt heq hrange
      exact ⟨hcursor, hnone, hcut⟩
    · have hcursor := hwell.deleteSelection_cursor (by omega)
      have hcut := hwell.deleteSelection_cutAt
      rw [hcursor, hword, Nat.min_eq_right (by omega), Nat.max_eq_left (by omega)] at hcut
      rw [hwell.deleteText_of_mark_ne (by omega)] at hnone ⊢
      exact ⟨hcursor, hnone, hcut⟩

theorem remove_exact (hwell : pane.area.WellFormed) (hstart : found.start ≤ found.caret)
    (hcaret : found.caret ≤ pane.area.text.length)
    (hmark : pane.area.mark = found.start ∨ pane.area.mark = found.caret) {position : Position}
    (hholds : pane.area.lines.Holds position)
    (hoffset : pane.area.lines.offset position = found.start) (hrow : position.row ≤ maxCell)
    (hcol : position.col ≤ maxCell) :
    ∃ left : TextArea, pane.remove found.start found.length = ⟨{ pane with area := left }, none⟩ ∧
      left.mark = left.caret ∧ left.cursor = position ∧
      left.lines.CutAt left.cursor (pane.area.text.take found.start)
        (pane.area.text.drop found.caret) := by
  have hlength := PartialWord.start_add_length hstart
  have hremove := pane.remove_offset hholds hrow hcol (hoffset ▸ hlength.trans_le hcaret)
  rw [hoffset] at hremove
  have hmoved : (pane.area.movedTo position).mark = found.start ∨
      (pane.area.movedTo position).mark = found.start + found.length := by
    rw [hlength]
    rcases pane.area.mark_moved position with ⟨_, hcursor⟩ | hkept
    · exact Or.inl (hcursor.trans hoffset)
    · rwa [hkept]
  obtain ⟨hcursor, hsame, hcut⟩ :=
    deleted_cutAt (hwell.movedTo hholds) hoffset (hlength.trans_le hcaret) hmoved
  rw [hlength] at hcut
  refine ⟨_, hremove, hsame, hcursor, ?_⟩
  rw [hcursor]
  exact hcut

theorem insert_exact (pane : Pane) (hwell : pane.area.WellFormed)
    (hmark : pane.area.mark = pane.area.caret) (hrow : pane.area.cursor.row ≤ maxCell)
    (hcol : pane.area.cursor.col ≤ maxCell) {before after : Text}
    (hcut : pane.area.lines.CutAt pane.area.cursor before after) (word : Text) :
    pane.insert before.length word = ⟨{ pane with area := pane.area.insertText word }, none⟩ ∧
      (pane.area.insertText word).lines.CutAt (pane.area.insertText word).cursor
        (before ++ TextArea.typed word) after := by
  constructor
  · rw [← hcut.offset]
    exact pane.insert_offset hcut.holds hrow hcol word
  · have hinsert := hwell.insertText_typed word
    rw [hmark, Nat.min_self, Nat.max_self] at hinsert
    rw [hcut.before_eq, hcut.after_eq]
    exact hinsert

theorem replaceWord_of_remove {left : TextArea}
    (hremove : pane.remove found.start found.length = ⟨{ pane with area := left }, none⟩) :
    replaceWord pane found word =
      (({ pane with area := left } : Pane).insert found.start word).andThen fun pane =>
        pane.setCaret (found.start + word.length) := by
  change ((pane.remove found.start found.length).andThen fun pane =>
    pane.insert found.start word).andThen (fun pane =>
      pane.setCaret (found.start + word.length)) = _
  rw [hremove, Edited.andThen_done]

/-- If the cursor can be sent to the start of the word, then the word is
replaced, and all that can still be refused is to send the cursor to its new
end. -/
theorem exists_replaceWord_eq_setCaret (hwell : pane.area.WellFormed)
    (hstart : found.start ≤ found.caret) (hcaret : found.caret ≤ pane.area.text.length)
    (hmark : pane.area.mark = found.start ∨ pane.area.mark = found.caret) {position : Position}
    (hholds : pane.area.lines.Holds position)
    (hoffset : pane.area.lines.offset position = found.start) (hrow : position.row ≤ maxCell)
    (hcol : position.col ≤ maxCell) (word : Text) :
    ∃ area : TextArea, area.WellFormed ∧ area.selection = none ∧
      area.lines.CutAt area.cursor (pane.area.text.take found.start ++ TextArea.typed word)
        (pane.area.text.drop found.caret) ∧
      replaceWord pane found word =
        ({ pane with area } : Pane).setCaret (found.start + word.length) := by
  obtain ⟨left, hremove, hsame, hcursor, hcut⟩ :=
    remove_exact hwell hstart hcaret hmark hholds hoffset hrow hcol
  have hleft : left.WellFormed := by
    have hremoved := Pane.wellFormed_remove hwell found.start found.length
    rwa [hremove] at hremoved
  have hbefore : (pane.area.text.take found.start).length = found.start :=
    List.length_take_of_le (Nat.le_trans hstart hcaret)
  obtain ⟨hinsert, hinserted⟩ := insert_exact { pane with area := left } hleft hsame
    (hcursor ▸ hrow) (hcursor ▸ hcol) hcut word
  rw [hbefore] at hinsert
  refine ⟨left.insertText word, hleft.insertText word, left.insertText_selection word, hinserted,
    ?_⟩
  rw [replaceWord_of_remove hremove, hinsert, Edited.andThen_done]

/-- A selection that is empty or just the word does no harm. -/
theorem exists_replaceWord_eq (hwell : pane.area.WellFormed) (hfits : pane.area.lines.Fits)
    (hstart : found.start ≤ found.caret) (hcaret : found.caret ≤ pane.area.text.length)
    (hmark : pane.area.mark = found.start ∨ pane.area.mark = found.caret)
    (hword : word.Typable)
    (hafter : Lines.Fits (Text.lines (found.replaceIn pane.area.text word))) :
    ∃ area : TextArea, area.WellFormed ∧ area.selection = none ∧
      area.text = found.replaceIn pane.area.text word ∧
      area.caret = found.start + word.length ∧
      replaceWord pane found word = ⟨{ pane with area }, none⟩ := by
  obtain ⟨position, hholds, hoffset⟩ :=
    Lines.exists_holds_of_le hwell.lines_ne_nil (Nat.le_trans hstart hcaret)
  obtain ⟨area, harea, hnone, hcut, hresult⟩ := exists_replaceWord_eq_setCaret hwell hstart hcaret
    hmark hholds hoffset (hfits.row_le hholds) (hfits.col_le hholds) word
  rw [TextArea.typed_eq_self hword] at hcut
  have htext : area.text = found.replaceIn pane.area.text word := hcut.text
  have hlines : area.lines.Fits := by
    rwa [← htext, harea.lines_text] at hafter
  have hplace : area.caret = found.start + word.length := by
    have hlength := hcut.offset
    rwa [List.length_append, List.length_take_of_le (Nat.le_trans hstart hcaret)] at hlength
  have hset := Pane.setCaret_offset { pane with area } hcut.holds (hlines.row_le hcut.holds)
    (hlines.col_le hcut.holds)
  refine ⟨area, harea, hnone, htext, hplace, ?_⟩
  rw [hresult, ← hplace]
  exact hset

theorem replaceWord_exact (hwell : pane.area.WellFormed) (hfits : pane.area.lines.Fits)
    (hstart : found.start ≤ found.caret) (hcaret : found.caret ≤ pane.area.text.length)
    (hmark : pane.area.mark = found.start ∨ pane.area.mark = found.caret)
    (hword : word.Typable)
    (hafter : Lines.Fits (Text.lines (found.replaceIn pane.area.text word))) :
    (replaceWord pane found word).fault? = none ∧
      (replaceWord pane found word).document.area.text = found.replaceIn pane.area.text word ∧
      (replaceWord pane found word).document.area.caret = found.start + word.length := by
  obtain ⟨area, _, _, htext, hplace, hresult⟩ :=
    exists_replaceWord_eq hwell hfits hstart hcaret hmark hword hafter
  rw [hresult]
  exact ⟨rfl, htext, hplace⟩

/-- A replacement that is not refused types the word at its start. -/
theorem text_of_replaceWord {left : TextArea}
    (hremove : pane.remove found.start found.length = ⟨{ pane with area := left }, none⟩)
    (hdone : (replaceWord pane found word).fault? = none) :
    ∃ position, left.lines.Holds position ∧ left.lines.offset position = found.start ∧
      (replaceWord pane found word).document.area.text =
        ((left.movedTo position).insertText word).text := by
  rw [replaceWord_of_remove hremove] at hdone ⊢
  obtain ⟨hinsert, hlast⟩ := Edited.andThen_of_fault?_eq_none hdone
  rw [hlast] at hdone ⊢
  obtain ⟨_, _, _, hset⟩ := Pane.exists_of_setCaret hdone
  obtain ⟨hjump, hinserted⟩ := Edited.andThen_of_fault?_eq_none hinsert
  obtain ⟨position, hholds, hoffset, hstart⟩ := Pane.exists_of_setCaret hjump
  refine ⟨position, hholds, hoffset, ?_⟩
  rw [hset]
  change (({ pane with area := left } : Pane).insert found.start word).document.area.text = _
  unfold Pane.insert
  rw [hinserted, hstart]

/-- If the text between a mark and the start of the word is deleted and the
result is as if the word had been, then the mark was at an end of the word.
As many characters before the word would end in a delimiter, which is not in
the word. -/
theorem mark_of_spliced {delimiters : Delimiters} {text : Text} {caret mark : Nat}
    (hlocate : delimiters.locate text caret = .ok (some found)) (hmark : mark ≤ text.length)
    {spliced : Text}
    (hspliced : spliced =
      text.take (min mark found.start) ++ text.drop (max mark found.start))
    (hinside : found.start ≤ spliced.length)
    (hsame : spliced.take found.start ++ word ++ spliced.drop found.start =
      found.replaceIn text word) :
    mark = found.start ∨ mark = found.caret := by
  obtain ⟨hcaret, hstart, hlength⟩ := Delimiters.locate_eq_some hlocate
  obtain ⟨front, happend, hfront, hends, havoids⟩ := Delimiters.exists_append_of_locate hlocate
  have hword := Delimiters.length_text_of_locate hlocate
  have hcount := congrArg List.length hsame
  have hcount' := congrArg List.length hspliced
  unfold PartialWord.replaceIn at hsame hcount
  unfold PartialWord.length at hword
  simp only [List.length_append, List.length_take, List.length_drop] at hcount hcount'
  -- Behind the start of the word the lengths alone fix the mark.
  by_cases hbefore : found.start ≤ mark
  · omega
  · have hbegin : spliced.take found.start = text.take found.start := by
      rw [List.append_assoc, List.append_assoc] at hsame
      refine List.append_inj_left hsame ?_
      rw [List.length_take_of_le hinside, List.length_take_of_le (by omega)]
    have hfrontText := Delimiters.take_start_of_locate hlocate happend hfront
    have hmiddle : (text.drop found.start).take (found.start - mark) = found.text := by
      have hsize : found.start - mark = caret - found.start := by omega
      rw [hsize, ← List.drop_take, happend, List.drop_left' hfront.symm]
    have hsuffix : found.text <:+ front := by
      refine ⟨text.take mark, ?_⟩
      rw [← hfrontText, ← hbegin, hspliced, Nat.min_eq_left (by omega),
        Nat.max_eq_right (by omega), List.take_append, List.take_take,
        List.length_take_of_le hmark, Nat.min_eq_right (by omega), hmiddle]
    have hnil := havoids.eq_nil_of_suffix hends hsuffix
    rw [hnil, List.length_nil] at hword
    omega

/-- With the mark elsewhere, other characters are deleted than those of the
word. -/
theorem mark_of_replaceWord {delimiters : Delimiters} (hwell : pane.area.WellFormed)
    (hfits : pane.area.lines.Fits)
    (hlocate : delimiters.locate pane.area.text pane.area.caret = .ok (some found))
    (hword : word.Typable)
    (hdone : (replaceWord pane found word).fault? = none)
    (htext : (replaceWord pane found word).document.area.text =
      found.replaceIn pane.area.text word) :
    pane.area.mark = found.start ∨ pane.area.mark = found.caret := by
  obtain ⟨hcaret, hstart, hinside⟩ := Delimiters.locate_eq_some hlocate
  have hlength := PartialWord.start_add_length (hcaret ▸ hstart)
  by_contra hmark
  obtain ⟨hnotStart, hnotCaret⟩ := not_or.1 hmark
  have hmoved : ∀ position, (pane.area.movedTo position).mark = pane.area.mark := by
    intro position
    rcases pane.area.mark_moved position with ⟨hsame, _⟩ | hkept
    · omega
    · exact hkept
  obtain ⟨position, hholds, hoffset, hremove⟩ :=
    Pane.remove_eq hwell.lines_ne_nil hfits (hlength.trans_le (hcaret.trans_le hinside))
  obtain ⟨there, hthere, hplace, htyped⟩ := text_of_replaceWord hremove hdone
  rw [htyped] at htext
  have hmovedWell := hwell.movedTo hholds
  by_cases hzero : found.length = 0
  · -- Nothing is deleted before the word is typed in the place of the selection.
    rw [if_pos hzero] at hthere hplace htext
    have hnow : ((pane.area.movedTo position).movedTo there).mark = pane.area.mark := hmoved there
    have hcut := (hmovedWell.movedTo hthere).insertText_cutAt hword
    rw [TextArea.movedTo_caret, hplace, hnow] at hcut
    have hcount := congrArg List.length (htext.symm.trans hcut.text)
    simp only [PartialWord.replaceIn, TextArea.movedTo_text, List.length_append, List.length_take,
      List.length_drop] at hcount
    have hmarkLe := hwell.mark_le
    omega
  · -- The selection is deleted instead of the word, and the word typed into the rest.
    rw [if_neg hzero] at hthere hplace htext
    have hne : (pane.area.movedTo position).mark ≠ (pane.area.movedTo position).caret := by
      rw [hmoved position]
      exact fun h => hnotStart (h.trans hoffset)
    rw [hmovedWell.deleteText_of_mark_ne hne] at hthere hplace htext
    have hsplice := hmovedWell.deleteSelection_cutAt
    rw [hmoved position, TextArea.movedTo_caret, hoffset] at hsplice
    have hcut := (hmovedWell.deleteSelection.movedTo hthere).insertText_cutAt hword
    have hnone : ((pane.area.movedTo position).deleteSelection.1.movedTo there).selection = none :=
      TextArea.deleteSelection_selection _
    rw [TextArea.mark_of_selection_eq_none hnone, Nat.min_self, Nat.max_self,
      TextArea.movedTo_caret, hplace] at hcut
    have hroom : found.start ≤ (Text.unlines
        (pane.area.movedTo position).deleteSelection.1.lines).length :=
      hplace ▸ hthere.offset_le
    exact hmark (mark_of_spliced hlocate hwell.mark_le hsplice.text hroom
      (hcut.text.symm.trans htext))

/-- However the text was edited before, completing a word replaces exactly the
partial word if and only if the selection is empty or begins where the word
does.  The caret is at the end of the word, so in the second case just the word
is selected. -/
theorem insertWord_exact_iff (text : Text) (edits : List Pane.Edit) (completer : Completer Pane)
    (hpane : completer.document = (Pane.ofText text).run edits) (found : PartialWord)
    (hfound : completer.partialWord = .ok (some found)) (word : Text) (hbreak : '\n' ∉ word)
    (hreturn : '\r' ∉ word) (hbefore : completer.document.area.lines.Fits)
    (hafter : Lines.Fits
      (Text.lines (found.replaceIn (Surface.text completer.document) word))) :
    ((completer.insertWord word).2 = none ∧
        Surface.text (completer.insertWord word).1.document =
          found.replaceIn (Surface.text completer.document) word ∧
        Surface.caret (completer.insertWord word).1.document = found.start + word.length) ↔
      completer.document.area.mark = found.start ∨ completer.document.area.mark = found.caret := by
  have hwell : completer.document.area.WellFormed := by
    rw [hpane]
    exact Pane.wellFormed_run text edits
  have hlocate : completer.delimiters.locate completer.document.area.text
      completer.document.area.caret = .ok (some found) := by
    rw [TextArea.caret, ← TextArea.offset_eq]
    exact hfound
  obtain ⟨hcaret, hstart, hinside⟩ := Delimiters.locate_eq_some hlocate
  have hlines : ∀ line ∈ Text.lines word, line.getLast? ≠ some '\r' := by
    have hone : Text.lines word = [word] := by
      have hjoined : Text.unlines [word] = word := List.intercalate_singleton
      rw [← hjoined, Text.lines_unlines (List.cons_ne_nil _ _) (by simpa using hbreak), hjoined]
    intro line hline hlast
    rw [hone, List.mem_singleton] at hline
    exact hreturn (hline ▸ List.mem_of_getLast? hlast)
  have hinsert : completer.insertWord word =
      ({ completer with document := (replaceWord completer.document found word).document },
        (replaceWord completer.document found word).fault?) := by
    unfold insertWord
    rw [hfound]
  rw [hinsert]
  constructor
  · rintro ⟨hdone, htext, _⟩
    exact mark_of_replaceWord hwell hbefore hlocate hlines hdone htext
  · intro hmark
    obtain ⟨hdone, htext, hend⟩ := replaceWord_exact hwell hbefore (hcaret ▸ hstart)
      (hcaret ▸ hinside) hmark hlines hafter
    exact ⟨hdone, htext, (TextArea.offset_eq _ _).trans hend⟩

/-- A word that is selected from its start to its end is replaced. -/
theorem insertWord_exact_iff_selected :
    let edits : List Pane.Edit :=
      [.setCaret 6, .key { code := .endKey, modifiers := { shift := true } }]
    let pane := (Pane.ofText "Pizza\nhas".toList).run edits
    let completer : Completer Pane :=
      attach pane (fun _ => .accepted)
        (CandidateSource.ofVocabulary Entity.short Entity.short []) {}
    let found : PartialWord := ⟨6, 9, "has".toList⟩
    completer.partialWord = .ok (some found) ∧ pane.area.selection = some ⟨1, 0⟩ ∧
      (completer.insertWord "hasPrice".toList).2 = none ∧
      Surface.text (completer.insertWord "hasPrice".toList).1.document =
        found.replaceIn "Pizza\nhas".toList "hasPrice".toList ∧
      Surface.caret (completer.insertWord "hasPrice".toList).1.document = 14 := by
  intro edits pane completer found
  have hfound : completer.partialWord = .ok (some found) := by decide
  have hexact := insertWord_exact_iff "Pizza\nhas".toList edits completer rfl found hfound
    "hasPrice".toList (by decide) (by decide) ⟨by decide, by decide⟩ ⟨by decide, by decide⟩
  exact ⟨hfound, by decide, hexact.2 (by decide)⟩

/-- With the end of the word selected, the selection goes instead of the
word. -/
theorem insertWord_deletes_selection :
    let pane := (Pane.ofText "Pizza".toList).run
      [.key { code := .left, modifiers := { shift := true } }]
    let completer : Completer Pane :=
      attach pane (fun _ => .accepted)
        (CandidateSource.ofVocabulary Entity.short Entity.short []) {}
    completer.partialWord = .ok (some ⟨0, 4, "Pizz".toList⟩) ∧
      (completer.insertWord "X".toList).2 = none ∧
      Surface.text (completer.insertWord "X".toList).1.document ≠
        PartialWord.replaceIn ⟨0, 4, "Pizz".toList⟩ "Pizza".toList "X".toList := by
  decide

end Completer

end ClassExpr
