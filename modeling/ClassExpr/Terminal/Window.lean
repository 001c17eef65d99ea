/-
The part of a text that is drawn.  Rows and columns of a window are counted
in cells, and cells end at 65535.
-/
import ClassExpr.Terminal.Change
import ClassExpr.Terminal.Rect

namespace ClassExpr

/-- The first row and the first column of the text that were drawn last, and
the size of the part that was.  Before the first draw it is empty. -/
structure Window where
  top : Nat := 0
  left : Nat := 0
  width : Nat := 0
  height : Nat := 0
  deriving DecidableEq, Repr

namespace Window

/-- The first line of a window of `size` lines that shows the line `shown`,
moved as little as possible and counted in cells.  A window of no lines starts
behind the line. -/
def along (first size shown : Nat) : Nat :=
  let cell := shown % (maxCell + 1)
  if cell < first then cell
  else if (first + size) % (maxCell + 1) ≤ cell then
    (cell + 1 + (maxCell + 1) - size) % (maxCell + 1)
  else first

/-- The window of some size that has the cursor in view. -/
def follow (window : Window) (cursor : Position) (inner : Rect) : Window :=
  { top := along window.top inner.height cursor.row
    left := along window.left inner.width cursor.col
    width := inner.width
    height := inner.height }

def page (window : Window) (down : Bool) : Window :=
  { window with
    top := if down then min (window.top + window.height) maxCell else window.top - window.height }

/-- The value between the ends of a window that is nearest to a value. -/
def clamp (first size value : Nat) : Nat :=
  max first (min value (max first (min (first + size) maxCell - 1)))

def nearest (window : Window) (position : Position) : Position :=
  ⟨clamp window.top window.height position.row, clamp window.left window.width position.col⟩

end Window

end ClassExpr
