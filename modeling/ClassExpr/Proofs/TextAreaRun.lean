/-
What holds of a text area whatever was done to it.

No line holds a line break, and neither does anything that can be put back in:
what was cut out, and the changes of the history.  The cursor and the other end
of the selection are in the text.
-/
import ClassExpr.Proofs.LineText
import ClassExpr.Terminal.Keyboard
import ClassExpr.Terminal.Screen

namespace ClassExpr

namespace Lines

variable {lines : Lines}

/-- No line holds a line break. -/
def Unbroken (lines : Lines) : Prop :=
  ∀ line ∈ lines, '\n' ∉ line

theorem unbroken_lines (text : Text) : Unbroken (Text.lines text) :=
  fun _ hline => Text.break_not_mem_of_mem_lines hline

theorem unbroken_cons {line : Text} :
    Unbroken (line :: lines) ↔ '\n' ∉ line ∧ lines.Unbroken :=
  List.forall_mem_cons

theorem unbroken_append {above below : Lines} :
    Unbroken (above ++ below) ↔ above.Unbroken ∧ below.Unbroken :=
  List.forall_mem_append

namespace Unbroken

theorem line (hlines : lines.Unbroken) (row : Nat) : '\n' ∉ lines.line row := by
  unfold Lines.line
  cases hrow : lines[row]? with
  | none => simp
  | some line => exact hlines line (List.mem_of_getElem? hrow)

theorem take (hlines : lines.Unbroken) (count : Nat) : Unbroken (List.take count lines) :=
  fun line hline => hlines line (List.mem_of_mem_take hline)

theorem drop (hlines : lines.Unbroken) (count : Nat) : Unbroken (List.drop count lines) :=
  fun line hline => hlines line (List.mem_of_mem_drop hline)

theorem left (hlines : lines.Unbroken) (row col : Nat) : '\n' ∉ (lines.line row).take col :=
  fun hbreak => hlines.line row (List.mem_of_mem_take hbreak)

theorem right (hlines : lines.Unbroken) (row col : Nat) : '\n' ∉ (lines.line row).drop col :=
  fun hbreak => hlines.line row (List.mem_of_mem_drop hbreak)

theorem between (hlines : lines.Unbroken) (first last : Position) :
    (lines.between first last).Unbroken := by
  unfold Lines.between
  split
  · have hpiece : '\n' ∉ ((lines.line first.row).take last.col).drop first.col :=
      fun hbreak => hlines.left _ _ (List.mem_of_mem_drop hbreak)
    simpa [Unbroken] using hpiece
  · have hmiddle := (hlines.take last.row).drop (first.row + 1)
    have hend : Unbroken [(lines.line last.row).take last.col] := by
      simpa [Unbroken] using hlines.left last.row last.col
    exact unbroken_cons.2 ⟨hlines.right _ _, unbroken_append.2 ⟨hmiddle, hend⟩⟩

theorem deleteBetween (hlines : lines.Unbroken) (first last : Position) :
    (lines.deleteBetween first last).Unbroken := by
  refine unbroken_append.2 ⟨hlines.take _, unbroken_cons.2 ⟨?_, hlines.drop _⟩⟩
  rw [List.mem_append, not_or]
  exact ⟨hlines.left _ _, hlines.right _ _⟩

theorem insertAt (hlines : lines.Unbroken) (start : Position) {pieces : Lines}
    (hpieces : pieces.Unbroken) : (lines.insertAt start pieces).Unbroken := by
  match pieces with
  | [] => exact hlines
  | [piece] =>
      refine unbroken_append.2 ⟨hlines.take _, unbroken_cons.2 ⟨?_, hlines.drop _⟩⟩
      have hpiece := (unbroken_cons.1 hpieces).1
      simp only [List.mem_append, not_or]
      exact ⟨⟨hlines.left _ _, hpiece⟩, hlines.right _ _⟩
  | first :: second :: rest =>
      obtain ⟨hfirst, hrest⟩ := unbroken_cons.1 hpieces
      have hlast : '\n' ∉ (second :: rest).getLast?.getD [] := by
        rw [List.getLast?_eq_some_getLast (List.cons_ne_nil _ _)]
        exact hrest _ (List.getLast_mem _)
      have hdropLast : Unbroken (second :: rest).dropLast :=
        fun line hline => hrest line (List.dropLast_subset _ hline)
      refine unbroken_append.2 ⟨hlines.take _, unbroken_cons.2 ⟨?_, unbroken_append.2
        ⟨hdropLast, unbroken_cons.2 ⟨?_, hlines.drop _⟩⟩⟩⟩
      · rw [List.mem_append, not_or]
        exact ⟨hlines.left _ _, hfirst⟩
      · rw [List.mem_append, not_or]
        exact ⟨hlast, hlines.right _ _⟩

theorem apply (hlines : lines.Unbroken) {change : Change} (hpieces : change.pieces.Unbroken) :
    (change.apply lines).Unbroken := by
  unfold Change.apply
  split
  · exact hlines.insertAt change.first hpieces
  · exact hlines.deleteBetween change.first change.last

end Unbroken

end Lines

theorem Change.apply_ne_nil (change : Change) {lines : Lines} (hlines : lines ≠ []) :
    change.apply lines ≠ [] := by
  unfold apply
  split
  · unfold Lines.insertAt
    split
    · exact hlines
    · simp
    · simp
  · simp [Lines.deleteBetween]

/-- A place with a neighbour behind it. -/
theorem neighbours?_lt {α : Type} {related : α → α → Bool} {items : List α} {place : Nat}
    (hplace : neighbours? related items = some place) : place + 1 < items.length := by
  unfold neighbours? at hplace
  obtain ⟨hlt, _⟩ := List.findIdx?_eq_some_iff_getElem.1 hplace
  rw [List.length_zip, List.length_tail] at hlt
  omega

/-- The forward searches for the start or the end of a word, and for a
paragraph, end inside of what they search. -/
theorem neighbours?_drop_lt {α : Type} {related : α → α → Bool} {items : List α}
    {start found : Nat}
    (hfound : (neighbours? related (items.drop start)).map (fun place => start + 1 + place) =
      some found) : found < items.length := by
  obtain ⟨place, hplace, rfl⟩ := Option.map_eq_some_iff.1 hfound
  have hlt := neighbours?_lt hplace
  rw [List.length_drop] at hlt
  omega

theorem lastWordStart?_le {line : Text} {col found : Nat}
    (hfound : lastWordStart? line col = some found) : found ≤ col := by
  unfold lastWordStart? at hfound
  split at hfound
  · cases hfound
    omega
  · split at hfound
    · cases hfound
    · split at hfound
      · cases hfound
      · cases hfound
        omega

namespace Lines

variable {lines : Lines}

theorem holds_fit {row : Nat} (hrow : row < lines.length) (col : Nat) :
    lines.Holds (lines.fit row col) :=
  ⟨hrow, Nat.min_le_right _ _⟩

theorem holds_head {row : Nat} (hrow : row < lines.length) : lines.Holds ⟨row, 0⟩ :=
  ⟨hrow, Nat.zero_le _⟩

theorem holds_tail {row : Nat} (hrow : row < lines.length) :
    lines.Holds ⟨row, (lines.line row).length⟩ :=
  ⟨hrow, Nat.le_refl _⟩

theorem Holds.of_col_le {position : Position} (hholds : lines.Holds position) {col : Nat}
    (hcol : col ≤ position.col) : lines.Holds ⟨position.row, col⟩ :=
  ⟨hholds.1, Nat.le_trans hcol hholds.2⟩

theorem Holds.insertAt {start : Position} (hstart : lines.Holds start) (pieces : Lines) :
    (lines.insertAt start pieces).Holds (start.behind pieces) := by
  cases pieces with
  | nil => exact hstart
  | cons first rest => exact (hstart.cutAt.insertAt (List.cons_ne_nil first rest)).holds

end Lines

namespace TextArea

variable {area : TextArea}

/-- The text and all that can be put into it is unbroken, and the cursor and
the selection are in it. -/
structure WellFormed (area : TextArea) : Prop where
  lines : area.lines.Unbroken
  clip : area.clip.Unbroken
  done : ∀ change ∈ area.history.done, change.pieces.Unbroken
  undone : ∀ change ∈ area.history.undone, change.pieces.Unbroken
  cursor : area.lines.Holds area.cursor
  selection : ∀ other ∈ area.selection, area.lines.Holds other

theorem deleteSelection_selection (area : TextArea) :
    area.deleteSelection.1.selection = none := by
  unfold deleteSelection
  split <;> rfl

namespace WellFormed

theorem lines_ne_nil (hwell : area.WellFormed) : area.lines ≠ [] :=
  List.ne_nil_of_length_pos (Nat.zero_lt_of_lt hwell.cursor.1)

theorem target (hwell : area.WellFormed) {move : CursorMove} {position : Position}
    (hmove : area.target? move = some position) : area.lines.Holds position := by
  obtain ⟨hrow, hcol⟩ := hwell.cursor
  cases move with
  | up =>
      simp only [target?] at hmove
      split at hmove
      · cases hmove
      · cases hmove
        exact Lines.holds_fit (by omega) _
  | down =>
      simp only [target?] at hmove
      split at hmove
      · cases hmove
        exact Lines.holds_fit (by omega) _
      · cases hmove
  | back =>
      simp only [target?] at hmove
      split at hmove
      · split at hmove
        · cases hmove
        · cases hmove
          exact Lines.holds_tail (by omega)
      · cases hmove
        exact hwell.cursor.of_col_le (Nat.sub_le _ _)
  | forward =>
      simp only [target?] at hmove
      split at hmove
      · rename_i hinside
        cases hmove
        exact ⟨hrow, hinside⟩
      · split at hmove
        · cases hmove
          exact Lines.holds_head (by omega)
        · cases hmove
  | head =>
      cases hmove
      exact Lines.holds_head hrow
  | tail =>
      cases hmove
      exact Lines.holds_tail hrow
  | top =>
      cases hmove
      exact Lines.holds_fit (by omega) _
  | bottom =>
      cases hmove
      exact Lines.holds_fit (by omega) _
  | wordForward =>
      simp only [target?] at hmove
      split at hmove
      · rename_i col hcol
        cases hmove
        exact ⟨hrow, Nat.le_of_lt (neighbours?_drop_lt hcol)⟩
      · split at hmove
        · cases hmove
          exact Lines.holds_head (by omega)
        · cases hmove
          exact Lines.holds_tail hrow
  | wordBack =>
      simp only [target?] at hmove
      split at hmove
      · rename_i col hword
        cases hmove
        exact hwell.cursor.of_col_le (lastWordStart?_le hword)
      · split at hmove
        · cases hmove
          exact Lines.holds_head (by omega)
        · cases hmove
          exact Lines.holds_tail (by omega)
  | paragraphForward =>
      cases hmove
      refine Lines.holds_fit ?_ _
      cases hfound : nextParagraph? area.lines area.cursor.row with
      | none =>
          rw [Option.getD_none]
          omega
      | some row => exact neighbours?_drop_lt hfound
  | paragraphBack =>
      simp only [target?] at hmove
      split at hmove
      · cases hmove
      · cases hmove
        refine Lines.holds_fit ?_ _
        cases hfound : lastParagraph? area.lines area.cursor.row with
        | none =>
            rw [Option.getD_none]
            omega
        | some row =>
            obtain ⟨place, _, rfl⟩ := Option.map_eq_some_iff.1 hfound
            rw [Option.getD_some]
            omega
  | intoWindow =>
      cases hmove
      exact Lines.holds_nearest hwell.lines_ne_nil _
  | jump row col =>
      cases hmove
      exact Lines.holds_nearest hwell.lines_ne_nil _

theorem moveWith (hwell : area.WellFormed) (move : CursorMove) (extend : Bool) :
    (area.moveWith move extend).WellFormed := by
  unfold TextArea.moveWith
  split
  · exact hwell
  · rename_i position htarget
    refine { hwell with cursor := hwell.target htarget, selection := ?_ }
    intro other hother
    cases extend with
    | false => cases hother
    | true =>
        cases hselection : area.selection with
        | none =>
            simp only [hselection, Option.getD_none, if_true, Option.mem_some_iff] at hother
            exact hother ▸ hwell.cursor
        | some fixed =>
            simp only [hselection, Option.getD_some, if_true, Option.mem_some_iff] at hother
            exact hother ▸ hwell.selection fixed hselection

theorem move (hwell : area.WellFormed) (move : CursorMove) : (area.move move).WellFormed :=
  hwell.moveWith move _

theorem windowed (hwell : area.WellFormed) (window : Window) :
    WellFormed { area with window } :=
  ⟨hwell.lines, hwell.clip, hwell.done, hwell.undone, hwell.cursor, hwell.selection⟩

theorem turnPage (hwell : area.WellFormed) (down extend : Bool) :
    (area.turnPage down extend).WellFormed :=
  (hwell.windowed (area.window.page down)).moveWith .intoWindow extend

theorem selected (hwell : area.WellFormed) {first last : Position}
    (hselected : area.selected? = some (first, last)) :
    area.lines.Holds first ∧ area.lines.Holds last := by
  unfold selected? at hselected
  split at hselected
  · cases hselected
  · rename_i other hother
    have hholds := hwell.selection other hother
    split at hselected
    · cases hselected
      exact ⟨hholds, hwell.cursor⟩
    · split at hselected
      · cases hselected
        exact ⟨hwell.cursor, hholds⟩
      · cases hselected

theorem unselected (hwell : area.WellFormed) : WellFormed { area with selection := none } :=
  { hwell with selection := fun _ hother => nomatch hother }

/-- Every change is noted, and drops what could be carried out again. -/
theorem change (hwell : area.WellFormed) (hselection : area.selection = none) {change : Change}
    (hpieces : change.pieces.Unbroken) (happly : (change.apply area.lines).Unbroken)
    (htarget : (change.apply area.lines).Holds change.target) :
    (area.change change).WellFormed where
  lines := happly
  clip := hwell.clip
  done := by
    intro noted hnoted
    unfold TextArea.change History.push at hnoted
    dsimp only at hnoted
    split at hnoted
    · rcases List.mem_cons.1 hnoted with rfl | hnoted
      · exact hpieces
      · exact hwell.done noted hnoted
    · rcases List.mem_cons.1 hnoted with rfl | hnoted
      · exact hpieces
      · exact hwell.done noted (List.dropLast_subset _ hnoted)
  undone := by
    intro noted hnoted
    unfold TextArea.change History.push at hnoted
    dsimp only at hnoted
    split at hnoted <;> cases hnoted
  cursor := htarget
  selection := by
    intro other hother
    rw [show (area.change change).selection = none from hselection] at hother
    cases hother

theorem deleteRange (hwell : area.WellFormed) (hselection : area.selection = none)
    {first : Position} (hfirst : area.lines.Holds first) (last : Position) :
    (area.deleteRange first last).WellFormed :=
  hwell.change hselection (hwell.lines.between first last) (hwell.lines.deleteBetween first last)
    (hfirst.cutAt_deleteBetween last).holds

theorem cutRange (hwell : area.WellFormed) (hselection : area.selection = none)
    {first : Position} (hfirst : area.lines.Holds first) (last : Position) :
    (area.cutRange first last).WellFormed :=
  { hwell.deleteRange hselection hfirst last with clip := hwell.lines.between first last }

/-- A change that is carried out later than it was noted, and may no longer
fit the text, sends the cursor to the nearest position. -/
theorem replay (hwell : area.WellFormed) (change : Change) (hpieces : change.pieces.Unbroken)
    {done undone : List Change} (hdone : ∀ change ∈ done, change.pieces.Unbroken)
    (hundone : ∀ change ∈ undone, change.pieces.Unbroken) :
    WellFormed
      { area with
        lines := change.apply area.lines
        cursor := (change.apply area.lines).nearest change.target
        selection := none
        history := ⟨done, undone⟩ } where
  lines := hwell.lines.apply hpieces
  clip := hwell.clip
  done := hdone
  undone := hundone
  cursor := Lines.holds_nearest (change.apply_ne_nil hwell.lines_ne_nil) _
  selection := fun _ hother => nomatch hother

theorem undo (hwell : area.WellFormed) : area.undo.1.WellFormed := by
  unfold TextArea.undo
  split
  · exact hwell
  · rename_i change done hdone
    obtain ⟨hpieces, hrest⟩ := List.forall_mem_cons.1 (hdone ▸ hwell.done)
    exact hwell.replay change.inverse hpieces hrest
      (List.forall_mem_cons.2 ⟨hpieces, hwell.undone⟩)

theorem redo (hwell : area.WellFormed) : area.redo.1.WellFormed := by
  unfold TextArea.redo
  split
  · exact hwell
  · rename_i change undone hundone
    obtain ⟨hpieces, hrest⟩ := List.forall_mem_cons.1 (hundone ▸ hwell.undone)
    exact hwell.replay change hpieces (List.forall_mem_cons.2 ⟨hpieces, hwell.done⟩) hrest

theorem deleteSelection (hwell : area.WellFormed) : area.deleteSelection.1.WellFormed := by
  unfold TextArea.deleteSelection
  split
  · rename_i first last hselected
    exact hwell.unselected.deleteRange rfl (hwell.selected hselected).1 last
  · exact hwell.unselected

theorem cut (hwell : area.WellFormed) : area.cut.1.WellFormed := by
  unfold TextArea.cut
  split
  · rename_i first last hselected
    exact hwell.unselected.cutRange rfl (hwell.selected hselected).1 last
  · exact hwell.unselected

theorem copy (hwell : area.WellFormed) : area.copy.WellFormed := by
  unfold TextArea.copy
  split
  · rename_i first last _
    exact { hwell.unselected with clip := hwell.lines.between first last }
  · exact hwell.unselected

theorem insertLines (hwell : area.WellFormed) (hselection : area.selection = none)
    {pieces : Lines} (hpieces : pieces.Unbroken) : (area.insertLines pieces).1.WellFormed := by
  unfold TextArea.insertLines
  split
  · exact hwell
  · exact hwell.change hselection hpieces (hwell.lines.insertAt area.cursor hpieces)
      (hwell.cursor.insertAt pieces)

/-- Everything that is typed takes the place of the selection. -/
theorem replaceSelection (hwell : area.WellFormed) {pieces : Lines} (hpieces : pieces.Unbroken) :
    (area.deleteSelection.1.insertLines pieces).1.WellFormed :=
  hwell.deleteSelection.insertLines area.deleteSelection_selection hpieces

theorem paste (hwell : area.WellFormed) : area.paste.1.WellFormed :=
  hwell.replaceSelection hwell.clip

theorem insertText (hwell : area.WellFormed) (text : Text) : (area.insertText text).WellFormed := by
  refine hwell.replaceSelection fun piece hpiece => ?_
  obtain ⟨line, hline, rfl⟩ := List.mem_map.1 hpiece
  have hbreak := Text.break_not_mem_of_mem_lines hline
  unfold dropReturn
  split
  · exact fun hmem => hbreak (List.dropLast_subset line hmem)
  · exact hbreak

theorem insertBreak (hwell : area.WellFormed) : area.insertBreak.WellFormed :=
  hwell.replaceSelection (by simp [Lines.Unbroken])

theorem insertChar (hwell : area.WellFormed) (c : Char) : (area.insertChar c).WellFormed := by
  unfold TextArea.insertChar
  split
  · exact hwell.insertBreak
  · rename_i hc
    refine hwell.replaceSelection ?_
    have hbreak : ¬ '\n' = c := fun h => hc (Or.inl h.symm)
    simpa [Lines.Unbroken] using hbreak

theorem insertTab (hwell : area.WellFormed) : area.insertTab.WellFormed := by
  refine hwell.replaceSelection fun piece hpiece => ?_
  rw [List.mem_singleton.1 hpiece, List.mem_replicate]
  exact fun hbreak => absurd hbreak.2 (by decide)

theorem deletingSelection (hwell : area.WellFormed) {delete : TextArea → TextArea × Bool}
    (hdelete : ∀ area : TextArea, area.WellFormed → area.selection = none →
      (delete area).1.WellFormed) :
    (area.deletingSelection delete).1.WellFormed := by
  unfold TextArea.deletingSelection
  dsimp only
  split
  · exact hwell.deleteSelection
  · exact hdelete _ hwell.deleteSelection area.deleteSelection_selection

theorem deleteBack (hwell : area.WellFormed) : area.deleteBack.1.WellFormed := by
  refine hwell.deletingSelection fun area hwell hselection => ?_
  split
  · exact hwell
  · rename_i position htarget
    exact hwell.deleteRange hselection (hwell.target htarget) _

theorem deleteNext (hwell : area.WellFormed) : area.deleteNext.1.WellFormed := by
  refine hwell.deletingSelection fun area hwell hselection => ?_
  split
  · exact hwell
  · exact hwell.deleteRange hselection hwell.cursor _

theorem deleteToTail (hwell : area.WellFormed) : area.deleteToTail.1.WellFormed := by
  refine hwell.deletingSelection fun area hwell hselection => ?_
  dsimp only
  split
  · exact hwell.cutRange hselection hwell.cursor _
  · exact hwell.deleteNext

theorem deleteToHead (hwell : area.WellFormed) : area.deleteToHead.1.WellFormed := by
  refine hwell.deletingSelection fun area hwell hselection => ?_
  split
  · exact hwell.deleteBack
  · exact hwell.cutRange hselection (Lines.holds_head hwell.cursor.1) _

theorem deleteWord (hwell : area.WellFormed) : area.deleteWord.1.WellFormed := by
  refine hwell.deletingSelection fun area hwell hselection => ?_
  split
  · exact hwell.deleteBack
  · have hcol : (lastWordStart? (area.line area.cursor.row) area.cursor.col).getD 0 ≤
        area.cursor.col := by
      cases hfound : lastWordStart? (area.line area.cursor.row) area.cursor.col with
      | none => exact Nat.zero_le _
      | some col => exact lastWordStart?_le hfound
    exact hwell.cutRange hselection (hwell.cursor.of_col_le hcol) _

theorem deleteNextWord (hwell : area.WellFormed) : area.deleteNextWord.1.WellFormed := by
  refine hwell.deletingSelection fun area hwell hselection => ?_
  dsimp only
  split
  · exact hwell.cutRange hselection hwell.cursor _
  · exact hwell.deleteNext

theorem deleteText (hwell : area.WellFormed) (count : Nat) :
    (area.deleteText count).WellFormed := by
  unfold TextArea.deleteText
  dsimp only
  split
  · exact hwell.deleteSelection
  · -- The end may be beyond the text; only the start has to be in it.
    exact hwell.deleteSelection.cutRange area.deleteSelection_selection
      hwell.deleteSelection.cursor _

theorem act (hwell : area.WellFormed) (action : AreaAction) : (area.act action).1.WellFormed := by
  cases action with
  | breakLine => exact hwell.insertBreak
  | insertChar c => exact hwell.insertChar c
  | insertTab => exact hwell.insertTab
  | deleteBack => exact hwell.deleteBack
  | deleteNext => exact hwell.deleteNext
  | deleteToTail => exact hwell.deleteToTail
  | deleteToHead => exact hwell.deleteToHead
  | deleteWord => exact hwell.deleteWord
  | deleteNextWord => exact hwell.deleteNextWord
  | move move extend => exact hwell.moveWith move extend
  | turnPage down extend => exact hwell.turnPage down extend
  | undo => exact hwell.undo
  | redo => exact hwell.redo
  | cut => exact hwell.cut
  | copy => exact hwell.copy
  | paste => exact hwell.paste

theorem input (hwell : area.WellFormed) (event : KeyEvent) :
    (area.input event).1.WellFormed := by
  unfold TextArea.input
  split
  · exact hwell.act _
  · exact hwell

end WellFormed

theorem wellFormed_ofText (text : Text) : (ofText text).WellFormed := by
  have hstart : WellFormed { lines := Text.lines text, cursor := ⟨0, 0⟩ } :=
    { lines := Lines.unbroken_lines text
      clip := by simp [Lines.Unbroken]
      done := fun _ hchange => nomatch hchange
      undone := fun _ hchange => nomatch hchange
      cursor := Lines.holds_head (List.length_pos_iff.2 (Text.lines_ne_nil text))
      selection := fun _ hother => nomatch hother }
  exact (hstart.move .bottom).move .tail

end TextArea

namespace Pane

/-- What can be done to the text of a pane. -/
inductive Edit where
  | key (event : KeyEvent)
  | insertChar (c : Char)
  | setCaret (offset : Nat)
  | remove (start length : Nat)
  | insert (offset : Nat) (word : Text)
  | draw (inner : Rect)

def edit (pane : Pane) : Edit → Pane
  | .key event => { pane with area := (pane.area.input event).1 }
  | .insertChar c => { pane with area := pane.area.insertChar c }
  | .setCaret offset => (pane.setCaret offset).document
  | .remove start length => (pane.remove start length).document
  | .insert offset word => (pane.insert offset word).document
  | .draw inner => Editor.drawnPane pane inner

def run (pane : Pane) (edits : List Edit) : Pane :=
  edits.foldl edit pane

variable {pane : Pane}

theorem wellFormed_andThen {edited : Edited Pane} {next : Pane → Edited Pane}
    (hwell : edited.document.area.WellFormed)
    (hnext : ∀ pane : Pane, pane.area.WellFormed → (next pane).document.area.WellFormed) :
    (edited.andThen next).document.area.WellFormed := by
  unfold Edited.andThen
  split
  · exact hwell
  · exact hnext _ hwell

theorem wellFormed_setCaret (hwell : pane.area.WellFormed) (offset : Nat) :
    (pane.setCaret offset).document.area.WellFormed := by
  unfold setCaret
  split
  · exact hwell
  · split
    · exact hwell
    · rename_i position _ _
      exact hwell.move (.jump position.row position.col)

theorem wellFormed_remove (hwell : pane.area.WellFormed) (start length : Nat) :
    (pane.remove start length).document.area.WellFormed := by
  unfold remove
  split
  · exact hwell
  · refine wellFormed_andThen (wellFormed_setCaret hwell start) fun pane hwell => ?_
    split
    · exact hwell
    · exact hwell.deleteText length

theorem wellFormed_insert (hwell : pane.area.WellFormed) (offset : Nat) (word : Text) :
    (pane.insert offset word).document.area.WellFormed :=
  wellFormed_andThen (wellFormed_setCaret hwell offset) fun _ hwell => hwell.insertText word

theorem wellFormed_edit (hwell : pane.area.WellFormed) (edit : Edit) :
    (pane.edit edit).area.WellFormed := by
  cases edit with
  | key event => exact hwell.input event
  | insertChar c => exact hwell.insertChar c
  | setCaret offset => exact wellFormed_setCaret hwell offset
  | remove start length => exact wellFormed_remove hwell start length
  | insert offset word => exact wellFormed_insert hwell offset word
  | draw inner => exact hwell.windowed (pane.area.window.follow pane.area.cursor inner)

/-- However a pane was edited, its text area is well formed. -/
theorem wellFormed_run (text : Text) (edits : List Edit) :
    ((ofText text).run edits).area.WellFormed := by
  induction edits using List.reverseRecOn with
  | nil => exact TextArea.wellFormed_ofText text
  | append_singleton edits edit ih =>
      rw [run, List.foldl_append]
      exact wellFormed_edit ih edit

/-- What can be done to a pane and to the text area in it: noting where it was
drawn does not draw it. -/
inductive Action where
  | edit (edit : Edit)
  | act (action : AreaAction)
  | move (move : CursorMove)
  | insertText (text : Text)
  | deleteText (count : Nat)
  | noteDrawn (inner : Rect)

def perform (pane : Pane) : Action → Pane
  | .edit edit => pane.edit edit
  | .act action => { pane with area := (pane.area.act action).1 }
  | .move move => { pane with area := pane.area.move move }
  | .insertText text => { pane with area := pane.area.insertText text }
  | .deleteText count => { pane with area := pane.area.deleteText count }
  | .noteDrawn inner => pane.noteDrawn inner

def performAll (pane : Pane) (actions : List Action) : Pane :=
  actions.foldl perform pane

theorem wellFormed_perform (hwell : pane.area.WellFormed) (action : Action) :
    (pane.perform action).area.WellFormed := by
  cases action with
  | edit edit => exact wellFormed_edit hwell edit
  | act action => exact hwell.act action
  | move move => exact hwell.move move
  | insertText text => exact hwell.insertText text
  | deleteText count => exact hwell.deleteText count
  | noteDrawn inner => exact hwell

theorem wellFormed_performAll (hwell : pane.area.WellFormed) (actions : List Action) :
    (pane.performAll actions).area.WellFormed := by
  induction actions generalizing pane with
  | nil => exact hwell
  | cons action rest ih => exact ih (wellFormed_perform hwell action)

end Pane

end ClassExpr
