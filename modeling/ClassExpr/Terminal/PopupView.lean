/-
The popup on the screen: where it is placed, which row a cell shows and how
it is drawn.
-/
import ClassExpr.Completion.Popup
import ClassExpr.Terminal.Canvas

namespace ClassExpr

structure PopupView where
  /-- Logical units in a column. -/
  unitsPerColumn : Nat := 8
  /-- Logical units in a row. -/
  unitsPerRow : Nat := 16
  background : Color := .rgb 30 30 46
  border : Color := .rgb 88 91 112
  selected : Color := .rgb 49 50 68
  text : Color := .white
  keyword : Color := .magenta
  entity : Color := .cyan

namespace PopupView

/-- Units turned into cells, three at least. -/
def cells (units perCell : Nat) : Nat :=
  max (min (units / max perCell 1) maxCell) 3

/-- The width and height of the popup in cells, border included. -/
def cellSize (view : PopupView) (popup : Popup) : Nat × Nat :=
  (cells popup.size.width view.unitsPerColumn, cells popup.size.height view.unitsPerRow)

/-- A coordinate moved into the range from `low` to `high`. -/
def clamp (value : Int) (low high : Nat) : Nat :=
  (max (low : Int) (min value (max high low : Nat))).toNat

/-- The cells of a visible popup: its corner is the anchor moved into the
area, and what sticks out of the area is cut off. -/
def rect? (view : PopupView) (popup : Popup) (area : Rect) : Option Rect :=
  match popup.visible, popup.anchor with
  | true, some anchor =>
    let size := view.cellSize popup
    let rect :=
      (Rect.ofSize (clamp anchor.x area.x (area.right - 1))
        (clamp anchor.y area.y (area.bottom - 1)) size.1 size.2).intersect area
    if rect.isEmpty then none else some rect
  | _, _ => none

/-- The first row that is shown in a list of some height, so that the
selected row is the last one at most. -/
def scrollOffset (popup : Popup) (height : Nat) : Nat :=
  match popup.selectedIndex? with
  | some selected => selected + 1 - max height 1
  | none => 0

def rowAt? (view : PopupView) (popup : Popup) (area : Rect) (x y : Nat) : Option Nat :=
  match view.rect? popup area with
  | none => none
  | some rect =>
    let inner := rect.inner
    if inner.contains x y then
      let row := scrollOffset popup inner.height + (y - inner.y)
      if row < popup.rows.length then some row else none
    else none

/-- The first row of a window onto `count` rows.  It is `offset` unless the
window would then miss the selected row or all rows. -/
def windowStart (count height offset : Nat) (selected : Option Nat) : Nat :=
  let first := min offset (count - 1)
  let shown := min (selected.getD first) (count - 1)
  if min (first + height) count ≤ shown then shown + 1 - height
  else if shown < first then shown
  else first

/-- The rows that are drawn in a list of some height, each with its index. -/
def drawnRows (popup : Popup) (height : Nat) : List (Candidate × Nat) :=
  let first :=
    windowStart popup.rows.length height (scrollOffset popup height) popup.selectedIndex?
  (popup.rows.zipIdx.drop first).take height

/-- The tag of a candidate, four columns wide. -/
def tag (candidate : Candidate) : Text :=
  match candidate.kind? with
  | none => ['k', 'w', ' ', ' ']
  | some kind => kind.tag ++ List.replicate (4 - kind.tag.length) ' '

def drawRow (view : PopupView) (canvas : Canvas) (inner : Rect) (y : Nat)
    (candidate : Candidate) (isSelected : Bool) : Canvas :=
  let canvas :=
    if isSelected then
      canvas.modifyRect ⟨inner.x, y, inner.width, 1⟩
        (·.restyle { background := some view.selected })
    else canvas
  let isKeyword := candidate.kind?.isNone
  let tagColor := if isKeyword then view.keyword else view.entity
  let (canvas, x) :=
    canvas.drawSpan inner.x y inner.right (tag candidate) { foreground := some tagColor }
  (canvas.drawSpan x y inner.right candidate.label
    { foreground := some view.text, bold := isKeyword }).1

/-- Draws the popup over whatever the canvas shows. -/
def draw (view : PopupView) (popup : Popup) (area : Rect) (canvas : Canvas) : Canvas :=
  match view.rect? popup area with
  | none => canvas
  | some rect =>
    let inner := rect.inner
    let canvas := canvas.modifyRect rect fun _ => { background := view.background }
    let canvas := canvas.border rect { foreground := some view.border }
    if inner.isEmpty then canvas
    else
      (drawnRows popup inner.height).zipIdx.foldl (fun canvas item =>
        view.drawRow canvas inner (inner.y + item.2) item.1.1
          (popup.selectedIndex? == some item.1.2)) canvas

end PopupView

end ClassExpr
