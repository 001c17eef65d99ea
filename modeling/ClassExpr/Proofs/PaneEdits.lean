/-
Edits of a pane as edits of its text.

A pane edits its text by sending the cursor to an offset and typing there.
What is typed takes the place of the selection, which lies between the cursor
and a mark, and the cursor is behind it.  Deleting characters deletes the
selection instead if there is one.  Not every offset is in the reach of the
cursor, since its rows and columns are cell coordinates.
-/
import ClassExpr.Proofs.TextAreaRun

namespace ClassExpr

namespace TextArea

variable {area : TextArea}

def caret (area : TextArea) : Nat :=
  area.lines.offset area.cursor

/-- The offset of the fixed end of the selection; without a selection that of
the cursor. -/
def mark (area : TextArea) : Nat :=
  (area.selection.map area.lines.offset).getD area.caret

def movedTo (area : TextArea) (position : Position) : TextArea :=
  { area with cursor := position }

@[simp] theorem movedTo_lines (area : TextArea) (position : Position) :
    (area.movedTo position).lines = area.lines := rfl

@[simp] theorem movedTo_selection (area : TextArea) (position : Position) :
    (area.movedTo position).selection = area.selection := rfl

@[simp] theorem movedTo_text (area : TextArea) (position : Position) :
    (area.movedTo position).text = area.text := rfl

@[simp] theorem movedTo_caret (area : TextArea) (position : Position) :
    (area.movedTo position).caret = area.lines.offset position := rfl

theorem mark_of_selection_eq_none (hselection : area.selection = none) :
    area.mark = area.caret := by
  rw [mark, hselection]
  rfl

/-- The lines of the text are the lines that are kept. -/
theorem WellFormed.lines_text (hwell : area.WellFormed) : Text.lines area.text = area.lines :=
  Text.lines_unlines hwell.lines_ne_nil hwell.lines

theorem text_ofText (text : Text) : (ofText text).text = text :=
  Text.unlines_lines text

theorem selection_ofText (text : Text) : (ofText text).selection = none := rfl

/-- A new text area has its cursor behind the text. -/
theorem caret_ofText (text : Text) : (ofText text).caret = text.length := by
  have hcut := (wellFormed_ofText text).cursor.cutAt_sides
  have hbelow : (ofText text).lines.drop ((ofText text).cursor.row + 1) = [] := by
    have hlines := List.length_pos_iff.2 (Text.lines_ne_nil text)
    refine List.drop_eq_nil_of_le ?_
    change (Text.lines text).length ≤ (Text.lines text).length - 1 + 1
    omega
  have hright : ((ofText text).lines.line (ofText text).cursor.row).drop
      (ofText text).cursor.col = [] :=
    List.drop_eq_nil_of_le (Nat.le_refl _)
  rw [hbelow, hright] at hcut
  have hlength : (ofText text).text.length = _ := congrArg List.length hcut.text
  rw [text_ofText, List.length_append] at hlength
  exact hcut.offset.trans hlength.symm

namespace WellFormed

/-- What is selected lies between the mark and the caret. -/
theorem selected?_cases (hwell : area.WellFormed) :
    (area.mark = area.caret ∧ area.selected? = none) ∨
      ∃ other, area.lines.Holds other ∧ area.lines.offset other = area.mark ∧
        ((area.mark < area.caret ∧ area.selected? = some (other, area.cursor)) ∨
          (area.caret < area.mark ∧ area.selected? = some (area.cursor, other))) := by
  cases hselection : area.selection with
  | none => exact Or.inl ⟨mark_of_selection_eq_none hselection, by simp [selected?, hselection]⟩
  | some other =>
      have hother := hwell.selection other hselection
      have hmark : area.mark = area.lines.offset other := by simp [mark, hselection]
      have hleft : other.before area.cursor = true ↔ area.mark < area.caret := by
        rw [hother.before_iff hwell.cursor, hmark, caret]
      have hright : area.cursor.before other = true ↔ area.caret < area.mark := by
        rw [hwell.cursor.before_iff hother, hmark, caret]
      unfold selected?
      rw [hselection]
      dsimp only
      rcases Nat.lt_trichotomy area.mark area.caret with hlt | heq | hgt
      · rw [if_pos (hleft.2 hlt)]
        exact Or.inr ⟨other, hother, hmark.symm, Or.inl ⟨hlt, rfl⟩⟩
      · rw [if_neg fun h => absurd (hleft.1 h) (by omega),
          if_neg fun h => absurd (hright.1 h) (by omega)]
        exact Or.inl ⟨heq, rfl⟩
      · rw [if_neg fun h => absurd (hleft.1 h) (by omega), if_pos (hright.2 hgt)]
        exact Or.inr ⟨other, hother, hmark.symm, Or.inr ⟨hgt, rfl⟩⟩

/-- Without the selection, the cursor is between what was before it and what
was behind it. -/
theorem deleteSelection_cutAt (hwell : area.WellFormed) :
    area.deleteSelection.1.lines.CutAt area.deleteSelection.1.cursor
      (area.text.take (min area.mark area.caret)) (area.text.drop (max area.mark area.caret)) := by
  have hcursor := hwell.cursor.cutAt
  unfold TextArea.deleteSelection
  rcases hwell.selected?_cases with
    ⟨heq, hnone⟩ | ⟨other, hother, hmark, ⟨hlt, hsome⟩ | ⟨hgt, hsome⟩⟩
  · rw [hnone, heq, Nat.min_self, Nat.max_self]
    exact hcursor
  · rw [hsome, Nat.min_eq_left (Nat.le_of_lt hlt), Nat.max_eq_right (Nat.le_of_lt hlt), ← hmark]
    exact hother.cutAt.deleteBetween hcursor
  · rw [hsome, Nat.min_eq_right (Nat.le_of_lt hgt), Nat.max_eq_left (Nat.le_of_lt hgt), ← hmark]
    exact hcursor.deleteBetween hother.cutAt

theorem deleteSelection_eq_of_mark_eq (hwell : area.WellFormed) (hmark : area.mark = area.caret) :
    area.deleteSelection = ({ area with selection := none }, false) := by
  unfold TextArea.deleteSelection
  rcases hwell.selected?_cases with ⟨_, hnone⟩ | ⟨other, _, _, ⟨hlt, _⟩ | ⟨hgt, _⟩⟩
  · rw [hnone]
  · omega
  · omega

theorem deleteSelection_snd_of_mark_ne (hwell : area.WellFormed) (hmark : area.mark ≠ area.caret) :
    area.deleteSelection.2 = true := by
  unfold TextArea.deleteSelection
  rcases hwell.selected?_cases with
    ⟨heq, _⟩ | ⟨other, _, _, ⟨_, hsome⟩ | ⟨_, hsome⟩⟩
  · exact absurd heq hmark
  · rw [hsome]
  · rw [hsome]

theorem deleteSelection_cursor (hwell : area.WellFormed) (hmark : area.caret ≤ area.mark) :
    area.deleteSelection.1.cursor = area.cursor := by
  unfold TextArea.deleteSelection
  rcases hwell.selected?_cases with
    ⟨_, hnone⟩ | ⟨other, _, _, ⟨hlt, _⟩ | ⟨_, hsome⟩⟩
  · rw [hnone]
  · omega
  · rw [hsome]
    rfl

/-- Deleting characters deletes the selection if there is one, and else the
characters behind the cursor. -/
theorem deleteText_of_mark_ne (hwell : area.WellFormed) (hmark : area.mark ≠ area.caret)
    (count : Nat) : area.deleteText count = area.deleteSelection.1 := by
  unfold TextArea.deleteText
  simp only [hwell.deleteSelection_snd_of_mark_ne hmark, if_true]

theorem deleteText_cutAt (hwell : area.WellFormed) (hmark : area.mark = area.caret) {count : Nat}
    (hcount : area.caret + count ≤ area.text.length) :
    (area.deleteText count).cursor = area.cursor ∧
      (area.deleteText count).lines.CutAt area.cursor (area.text.take area.caret)
        (area.text.drop (area.caret + count)) := by
  obtain ⟨last, hlast, hoffset⟩ := Lines.exists_holds_of_le hwell.lines_ne_nil hcount
  have hposition : position? { area with selection := none }
      (area.lines.offset area.cursor + count) = some last :=
    position?_eq_some_iff.2 ⟨hlast, hoffset⟩
  have hcut := hwell.cursor.cutAt.deleteBetween hlast.cutAt
  unfold TextArea.deleteText
  simp only [hwell.deleteSelection_eq_of_mark_eq hmark, Bool.false_eq_true, if_false, offset_eq,
    hposition, Option.getD_some]
  rw [hoffset] at hcut
  exact ⟨rfl, hcut⟩

end WellFormed

theorem deleteText_selection (area : TextArea) (count : Nat) :
    (area.deleteText count).selection = none := by
  unfold deleteText
  dsimp only
  split
  · exact area.deleteSelection_selection
  · exact area.deleteSelection_selection

theorem WellFormed.movedTo (hwell : area.WellFormed) {position : Position}
    (hholds : area.lines.Holds position) : (area.movedTo position).WellFormed :=
  { hwell with cursor := hholds }

/-- The cursor takes the mark along unless there is a selection. -/
theorem mark_moved (area : TextArea) (position : Position) :
    (area.mark = area.caret ∧
        (area.movedTo position).mark = area.lines.offset position) ∨
      (area.movedTo position).mark = area.mark := by
  cases hselection : area.selection with
  | none =>
      have hmoved : (area.movedTo position).selection = none := hselection
      exact Or.inl ⟨mark_of_selection_eq_none hselection, mark_of_selection_eq_none hmoved⟩
  | some other => exact Or.inr (by simp [mark, hselection])

theorem WellFormed.mark_le (hwell : area.WellFormed) : area.mark ≤ area.text.length := by
  unfold mark
  cases hselection : area.selection with
  | none => exact hwell.cursor.offset_le
  | some other => exact (hwell.selection other hselection).offset_le

theorem insertLines_cutAt {before after : Text} (hcut : area.lines.CutAt area.cursor before after)
    {pieces : Lines} (hpieces : pieces ≠ []) :
    (area.insertLines pieces).1.lines.CutAt (area.insertLines pieces).1.cursor
      (before ++ Text.unlines pieces) after := by
  unfold insertLines
  split
  · rename_i hempty
    subst hempty
    simpa [Text.unlines] using hcut
  · exact hcut.insertAt hpieces

end TextArea

/-- No line of the text ends in a carriage return, so it is typed as it is. -/
def Text.Typable (word : Text) : Prop :=
  ∀ line ∈ lines word, line.getLast? ≠ some '\r'

instance (word : Text) : Decidable word.Typable :=
  inferInstanceAs (Decidable (∀ line ∈ Text.lines word, line.getLast? ≠ some '\r'))

namespace TextArea

variable {area : TextArea}

/-- What typing a text puts in: its lines without the carriage returns at their
ends. -/
def typed (word : Text) : Text :=
  Text.unlines ((Text.lines word).map dropReturn)

theorem typed_eq_self {word : Text} (hword : word.Typable) : typed word = word := by
  have hpieces : (Text.lines word).map dropReturn = Text.lines word := by
    refine List.map_congr_left (fun line hline => ?_) |>.trans (List.map_id _)
    exact if_neg (hword line hline)
  rw [typed, hpieces, Text.unlines_lines]

/-- A typed text takes the place of the selection, and the cursor is behind
it. -/
theorem WellFormed.insertText_typed (hwell : area.WellFormed) (word : Text) :
    (area.insertText word).lines.CutAt (area.insertText word).cursor
      (area.text.take (min area.mark area.caret) ++ typed word)
      (area.text.drop (max area.mark area.caret)) :=
  insertLines_cutAt hwell.deleteSelection_cutAt (by simp [Text.lines_ne_nil])

theorem WellFormed.insertText_cutAt (hwell : area.WellFormed) {word : Text}
    (hword : word.Typable) :
    (area.insertText word).lines.CutAt (area.insertText word).cursor
      (area.text.take (min area.mark area.caret) ++ word)
      (area.text.drop (max area.mark area.caret)) := by
  have hcut := hwell.insertText_typed word
  rwa [typed_eq_self hword] at hcut

theorem insertText_selection (area : TextArea) (word : Text) :
    (area.insertText word).selection = none := by
  unfold insertText insertLines
  split
  · exact area.deleteSelection_selection
  · exact area.deleteSelection_selection

theorem move_jump {position : Position} (hholds : area.lines.Holds position) :
    area.move (.jump position.row position.col) = area.movedTo position := by
  have htarget : area.target? (.jump position.row position.col) = some position :=
    congrArg some hholds.nearest_eq
  unfold move moveWith movedTo
  rw [htarget]
  cases hselection : area.selection with
  | none => rfl
  | some other => rfl

end TextArea

namespace Lines

variable {lines : Lines}

/-- All positions can be named to the cursor. -/
structure Fits (lines : Lines) : Prop where
  rows : lines.length ≤ maxCell + 1
  cols : ∀ line ∈ lines, line.length ≤ maxCell

instance (lines : Lines) : Decidable lines.Fits :=
  decidable_of_iff (lines.length ≤ maxCell + 1 ∧ ∀ line ∈ lines, line.length ≤ maxCell)
    ⟨fun h => ⟨h.1, h.2⟩, fun h => ⟨h.rows, h.cols⟩⟩

theorem Fits.row_le (hfits : lines.Fits) {position : Position} (hholds : lines.Holds position) :
    position.row ≤ maxCell := by
  have hrow := hholds.1
  have hrows := hfits.rows
  omega

theorem Fits.col_le (hfits : lines.Fits) {position : Position} (hholds : lines.Holds position) :
    position.col ≤ maxCell := by
  obtain ⟨hrow, hcol⟩ := hholds
  exact Nat.le_trans hcol (hfits.cols _ (line_mem hrow))

end Lines

theorem Edited.andThen_of_fault?_eq_none {σ : Type} {edited : Edited σ} {next : σ → Edited σ}
    (hdone : (edited.andThen next).fault? = none) :
    edited.fault? = none ∧ edited.andThen next = next edited.document := by
  unfold andThen at hdone ⊢
  split at hdone
  · rename_i fault hfault
    rw [hfault] at hdone
    cases hdone
  · rename_i hnone
    simp [hnone]

/-- The cursor can be sent to an offset: it is in the text, with no more lines
above it and characters left of it than a cell coordinate can count. -/
def Text.CursorReaches (text : Text) (offset : Nat) : Prop :=
  offset ≤ text.length ∧ breaks (text.take offset) ≤ maxCell ∧
    (lastLine (text.take offset)).length ≤ maxCell

instance (text : Text) (offset : Nat) : Decidable (text.CursorReaches offset) :=
  inferInstanceAs (Decidable (_ ∧ _))

/-- In the first line the offsets are the columns. -/
theorem Text.cursorReaches_length_iff {before : Text} (hbreak : '\n' ∉ before) (after : Text) :
    CursorReaches (before ++ after) before.length ↔ before.length ≤ maxCell := by
  unfold CursorReaches
  rw [List.take_left, breaks_eq_zero hbreak, lastLine_eq_self hbreak]
  simp

namespace Pane

variable {pane : Pane}

theorem caret_eq (pane : Pane) : Surface.caret pane = pane.area.caret :=
  TextArea.offset_eq _ _

theorem setCaret_offset (pane : Pane) {position : Position}
    (hholds : pane.area.lines.Holds position) (hrow : position.row ≤ maxCell)
    (hcol : position.col ≤ maxCell) :
    pane.setCaret (pane.area.lines.offset position) =
      ⟨{ pane with area := pane.area.movedTo position }, none⟩ := by
  unfold setCaret
  rw [TextArea.position?_eq_some_iff.2 ⟨hholds, rfl⟩]
  dsimp only
  rw [if_neg (by omega), TextArea.move_jump hholds]

theorem exists_of_setCaret {offset : Nat} (hdone : (pane.setCaret offset).fault? = none) :
    ∃ position, pane.area.lines.Holds position ∧ pane.area.lines.offset position = offset ∧
      pane.setCaret offset = ⟨{ pane with area := pane.area.movedTo position }, none⟩ := by
  unfold setCaret at hdone ⊢
  cases hposition : pane.area.position? offset with
  | none => simp [hposition, Edited.refused] at hdone
  | some position =>
      obtain ⟨hholds, hoffset⟩ := TextArea.position?_eq_some_iff.1 hposition
      refine ⟨position, hholds, hoffset, ?_⟩
      rw [hposition] at hdone
      dsimp only at hdone ⊢
      split at hdone
      · cases hdone
      · rename_i hcell
        rw [if_neg hcell, TextArea.move_jump hholds]

theorem exists_of_cursorReaches (hwell : pane.area.WellFormed) {offset : Nat}
    (hreach : pane.area.text.CursorReaches offset) :
    ∃ position, pane.area.lines.Holds position ∧ pane.area.lines.offset position = offset ∧
      position.row ≤ maxCell ∧ position.col ≤ maxCell := by
  obtain ⟨hinside, hrow, hcol⟩ := hreach
  obtain ⟨position, hholds, rfl⟩ := Lines.exists_holds_of_le hwell.lines_ne_nil hinside
  obtain ⟨hrows, hcols⟩ := hholds.eq_of_unbroken hwell.lines
  exact ⟨position, hholds, rfl, hrows.trans_le hrow, hcols.trans_le hcol⟩

theorem setCaret_of_not_cursorReaches (hwell : pane.area.WellFormed) {offset : Nat}
    (hreach : ¬ pane.area.text.CursorReaches offset) :
    pane.setCaret offset = .refused pane (.outOfRange offset 0) := by
  unfold setCaret
  cases hposition : pane.area.position? offset with
  | none => rfl
  | some position =>
      obtain ⟨hholds, rfl⟩ := TextArea.position?_eq_some_iff.1 hposition
      obtain ⟨hrows, hcols⟩ := hholds.eq_of_unbroken hwell.lines
      refine if_pos ?_
      by_contra hcell
      obtain ⟨hrow, hcol⟩ := not_or.1 hcell
      exact hreach ⟨hholds.offset_le, hrows ▸ Nat.not_lt.1 hrow, hcols ▸ Nat.not_lt.1 hcol⟩

/-- Sending the cursor somewhere keeps the text, and succeeds exactly within
its reach. -/
theorem setCaret_text (pane : Pane) (hwell : pane.area.WellFormed) (offset : Nat) :
    (pane.setCaret offset).document.area.text = pane.area.text ∧
      ((pane.setCaret offset).fault? = none ↔ pane.area.text.CursorReaches offset) := by
  by_cases hreach : pane.area.text.CursorReaches offset
  · obtain ⟨position, hholds, rfl, hrow, hcol⟩ := exists_of_cursorReaches hwell hreach
    rw [pane.setCaret_offset hholds hrow hcol]
    exact ⟨rfl, iff_of_true rfl hreach⟩
  · rw [setCaret_of_not_cursorReaches hwell hreach]
    exact ⟨rfl, iff_of_false (by simp [Edited.refused]) hreach⟩

theorem not_length_lt (pane : Pane) {start length : Nat}
    (hrange : start + length ≤ pane.area.text.length) :
    ¬ pane.area.length < start + length := by
  rw [TextArea.length_eq]
  exact Nat.not_lt.2 hrange

/-- Deleting a range that is in the text sends the cursor to its start and
deletes there. -/
theorem remove_offset (pane : Pane) {position : Position}
    (hholds : pane.area.lines.Holds position) (hrow : position.row ≤ maxCell)
    (hcol : position.col ≤ maxCell) {length : Nat}
    (hrange : pane.area.lines.offset position + length ≤ pane.area.text.length) :
    pane.remove (pane.area.lines.offset position) length =
      ⟨{ pane with
          area :=
            if length = 0 then pane.area.movedTo position
            else (pane.area.movedTo position).deleteText length }, none⟩ := by
  unfold remove
  rw [if_neg (pane.not_length_lt hrange), setCaret_offset pane hholds hrow hcol,
    Edited.andThen_done]
  split
  · rfl
  · rfl

theorem remove_eq (hlines : pane.area.lines ≠ []) (hfits : pane.area.lines.Fits)
    {start length : Nat} (hrange : start + length ≤ pane.area.text.length) :
    ∃ position, pane.area.lines.Holds position ∧ pane.area.lines.offset position = start ∧
      pane.remove start length =
        ⟨{ pane with
            area :=
              if length = 0 then pane.area.movedTo position
              else (pane.area.movedTo position).deleteText length }, none⟩ := by
  have hstart : start ≤ (Text.unlines pane.area.lines).length :=
    Nat.le_trans (Nat.le_add_right start length) hrange
  obtain ⟨position, hholds, rfl⟩ := Lines.exists_holds_of_le hlines hstart
  exact ⟨position, hholds, rfl,
    pane.remove_offset hholds (hfits.row_le hholds) (hfits.col_le hholds) hrange⟩

theorem insert_offset (pane : Pane) {position : Position}
    (hholds : pane.area.lines.Holds position) (hrow : position.row ≤ maxCell)
    (hcol : position.col ≤ maxCell) (word : Text) :
    pane.insert (pane.area.lines.offset position) word =
      ⟨{ pane with area := (pane.area.movedTo position).insertText word },
        none⟩ := by
  unfold insert
  rw [setCaret_offset pane hholds hrow hcol, Edited.andThen_done]

end Pane

end ClassExpr
