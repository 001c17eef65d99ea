/-
What a terminal shows.  A new frame is compared with the last one, and only
the cells that changed are sent.  The cell behind a wide symbol is not sent,
so it keeps what it showed before.
-/
import ClassExpr.Terminal.Canvas

namespace ClassExpr

/-- The last frame that was drawn and the cells that are shown. -/
structure Display where
  frame : Canvas
  shown : Canvas

/-- One place of the screen: the cell of the new frame, the cell of the last
frame and the cell that is shown. -/
structure Place where
  new : Cell
  old : Cell
  shown : Cell

namespace Display

def blank (area : Rect) : Display :=
  ⟨Canvas.blank area, Canvas.blank area⟩

/-- The cells shown after a new frame.  The first `hidden` cells lie behind a
wide symbol of the new frame, and the first `stale` cells behind one of either
frame. -/
def refresh (hidden stale : Nat) : List Place → List Cell
  | [] => []
  | place :: rest =>
    let isSent := (place.new.symbol != place.old.symbol || 0 < stale) && hidden == 0
    let width := Text.width place.new.symbol
    (if isSent then place.new else place.shown) ::
      refresh (width - 1) (max (max width (Text.width place.old.symbol)) stale - 1) rest

def cells (canvas : Canvas) : List Cell :=
  canvas.rows.toList.flatMap Array.toList

/-- Cells cut into rows. -/
def rows (width height : Nat) (cells : List Cell) : Array (Array Cell) :=
  ((List.range height).map fun row => ((cells.drop (row * width)).take width).toArray).toArray

/-- The terminal in another size.  The cells that it shows are kept in their
order, as far as there is room. -/
def resize (display : Display) (width height : Nat) : Display :=
  let area := Rect.ofSize 0 0 width height
  let kept := (cells display.shown).take (area.width * area.height)
  let added := List.replicate (area.width * area.height - kept.length) ({} : Cell)
  { display with shown := ⟨area, rows area.width area.height (kept ++ added)⟩ }

end Display

end ClassExpr
