/-
A text area on the screen, as a document for a completer.  The pane knows
the cells it was last drawn in and how far its text is scrolled.

The cursor of a text area can be sent only to rows and columns below 65536;
offsets further out are out of range for edits.
-/
import ClassExpr.Document.Surface
import ClassExpr.Terminal.Rect
import ClassExpr.Terminal.TextArea
import ClassExpr.Text.Numeral

namespace ClassExpr

/-- A text area with the part of the screen that shows it. -/
structure Pane where
  area : TextArea
  viewport : Option Rect := none
  topRow : Nat := 0
  leftCol : Nat := 0

namespace Pane

/-- A pane that was not drawn yet. -/
def ofText (text : Text) : Pane :=
  { area := TextArea.ofText text }

/-- The first line of a window of `size` lines that shows the line `shown`, moved
as little as possible. -/
def follow (first size shown : Nat) : Nat :=
  if shown < first then shown
  else if first + size ≤ shown then shown + 1 - size
  else first

/-- Notes the cells the text is drawn in and scrolls the cursor into view. -/
def noteDrawn (pane : Pane) (inner : Rect) : Pane :=
  { pane with
    viewport := some inner
    topRow := follow pane.topRow (max inner.height 1) pane.area.cursor.row
    leftCol := follow pane.leftCol (max inner.width 1) pane.area.cursor.col }

def setCaret (pane : Pane) (offset : Nat) : Edited Pane :=
  match pane.area.position? offset with
  | none => .refused pane (.outOfRange offset 0)
  | some position =>
    if maxCell < position.row ∨ maxCell < position.col then
      .refused pane (.outOfRange offset 0)
    else ⟨{ pane with area := pane.area.move (.jump position.row position.col) }, none⟩

/-- What becomes of a range that ends behind the text.  The number of characters
of a text has 64 bits, so every end that has more is behind the text, and there
the addition stops the program before the range is looked at. -/
def rangeFault (start length : Nat) : Fault :=
  if start + length ≤ Text.max64 then .outOfRange start length else .overflow

def remove (pane : Pane) (start length : Nat) : Edited Pane :=
  if pane.area.length < start + length then .refused pane (rangeFault start length)
  else
    (pane.setCaret start).andThen fun pane =>
      if length = 0 then ⟨pane, none⟩
      else ⟨{ pane with area := pane.area.deleteText length }, none⟩

def insert (pane : Pane) (offset : Nat) (word : Text) : Edited Pane :=
  (pane.setCaret offset).andThen fun pane =>
    ⟨{ pane with area := pane.area.insertText word }, none⟩

/-- The cell of an offset, by the columns that the text before it takes. -/
def anchor? (pane : Pane) (offset : Nat) : Option Anchor :=
  match pane.viewport, pane.area.position? offset with
  | some viewport, some position =>
    let shown :=
      ((pane.area.line position.row).drop pane.leftCol).take (position.col - pane.leftCol)
    some ⟨viewport.x + Text.width shown, viewport.y + position.row - pane.topRow⟩
  | _, _ => none

instance : Surface Pane where
  text pane := pane.area.text
  caret pane := pane.area.offset pane.area.cursor
  setCaret := setCaret
  remove := remove
  insert := insert
  anchor? := anchor?
  lineHeight _ := 1

end Pane

end ClassExpr
