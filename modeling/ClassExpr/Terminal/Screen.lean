/-
The screen of the editor: a title, the text in a frame, a line of help and
the popup over all of them.  The screen needs five rows.
-/
import ClassExpr.Terminal.Display
import ClassExpr.Terminal.Editor

namespace ClassExpr
namespace Editor

/-- The first row of the screen. -/
def title : Text := "ontoedit  class expression editor".toList

def frameTitle : Text := " Class expression ".toList

def help : Text := "Tab/Ctrl+Space complete  Enter accept  Esc dismiss  Ctrl+Q quit".toList

/-- The last row of the screen: the status and the help, as far as they stand
on the first line. -/
def helpLine (status : Status) : Text :=
  if status.text.isEmpty then help
  else
    match Text.lines (status.text ++ "  |  ".toList ++ help) with
    | line :: _ :: _ => TextArea.dropReturn line
    | lines => lines.flatten

def frame (screen : Rect) : Rect :=
  ⟨screen.x, screen.y + 1, screen.width, screen.height - 2⟩

/-- Writes tabs as blanks up to the next tab stop, given the columns in front
of the text, and gives the columns behind it. -/
def expandTabs (columns : Nat) (text : Text) : Text × Nat :=
  let (shown, columns) :=
    text.foldl (fun state c =>
      let (shown, columns) := state
      if c = '\t' then
        let blanks := TextArea.tabLength - columns % TextArea.tabLength
        (List.replicate blanks ' ' ++ shown, columns + blanks)
      else (c :: shown, columns + Text.tabWidth c)) (([] : Text), columns)
  (shown.reverse, columns)

/-- The pieces of a line that is cut in front of some columns. -/
def pieces (isCut : Nat → Bool) (line : Text) : List Text :=
  line.zipIdx.foldr (fun item pieces =>
    match pieces with
    | [] => [[item.1]]
    | piece :: rest =>
      if isCut (item.2 + 1) then [item.1] :: piece :: rest else (item.1 :: piece) :: rest) []

/-- The clusters of a line that is cut in front of some columns.  Characters
of two pieces never join. -/
def lineClusters (isCut : Nat → Bool) (line : Text) : List Text :=
  ((pieces isCut line).foldl (fun state piece =>
    let (clusters, columns) := state
    let (shown, columns) := expandTabs columns piece
    (clusters ++ Text.clusters shown, columns)) (([] : List Text), 0)).1

/-- The columns of a row where the style of the text changes: around the
character under the cursor and at the ends of the selection. -/
def isStyleCut (area : TextArea) (row col : Nat) : Bool :=
  (row == area.cursor.row && (col == area.cursor.col || col == area.cursor.col + 1)) ||
    match area.selected? with
    | none => false
    | some (first, last) =>
      (⟨row, col⟩ : Position) == first || (⟨row, col⟩ : Position) == last

def drawText (area : TextArea) (inner : Rect) (canvas : Canvas) : Canvas :=
  if inner.isEmpty then canvas
  else
    ((area.lines.drop area.window.top).take inner.height).zipIdx.foldl (fun canvas item =>
      canvas.drawLine inner (inner.y + item.2) area.window.left
        (lineClusters (isStyleCut area (area.window.top + item.2)) item.1)) canvas

/-- The pane after it was drawn with the cursor in view. -/
def drawnPane (pane : Pane) (inner : Rect) : Pane :=
  let window := pane.area.window.follow pane.area.cursor inner
  { pane.noteDrawn inner with area := { pane.area with window } }

def drawBar (screen : Rect) (y : Nat) (text : Text) (canvas : Canvas) : Canvas :=
  canvas.drawLine screen y 0 (Text.clusters text)

/-- Draws the editor on a screen of some size.  Drawing scrolls the text so
that the cursor is in view. -/
def draw (editor : Editor) (width height : Nat) : Editor × Canvas :=
  let screen := Rect.ofSize 0 0 width height
  let frame := frame screen
  let inner := frame.inner
  let pane := drawnPane editor.completer.document inner
  let editor :=
    { editor with screen, completer := { editor.completer with document := pane } }
  let canvas := drawBar screen screen.y title (Canvas.blank screen)
  let canvas := canvas.border frame {}
  let canvas := (canvas.drawSpan (frame.x + 1) frame.y (frame.right - 1) frameTitle {}).1
  let canvas := drawText pane.area inner canvas
  let canvas := drawBar screen (screen.y + screen.height - 1) (helpLine editor.status) canvas
  (editor, editor.view.draw editor.completer.popup screen canvas)

end Editor
end ClassExpr
