/-
A grid of styled cells to draw on.  A cell shows one grapheme cluster; a
cluster of two columns is followed by a blank cell.
-/
import ClassExpr.Terminal.Rect
import ClassExpr.Text.Cluster

namespace ClassExpr

inductive Color where
  | reset
  | white
  | magenta
  | cyan
  | rgb (red green blue : Nat)
  deriving DecidableEq, Repr

/-- A change of style; what is not named stays. -/
structure Style where
  foreground : Option Color := none
  background : Option Color := none
  bold : Bool := false

structure Cell where
  symbol : Text := [' ']
  foreground : Color := .reset
  background : Color := .reset
  bold : Bool := false
  deriving DecidableEq, Repr

namespace Cell

def restyle (cell : Cell) (style : Style) : Cell :=
  { cell with
    foreground := style.foreground.getD cell.foreground
    background := style.background.getD cell.background
    bold := cell.bold || style.bold }

def draw (cell : Cell) (symbol : Text) (style : Style) : Cell :=
  { cell.restyle style with symbol }

/-- The cell with a symbol of no width added to its own. -/
def append (cell : Cell) (symbol : Text) (style : Style) : Cell :=
  { cell.restyle style with symbol := cell.symbol ++ symbol }

end Cell

/-- A rectangle of cells, row by row. -/
structure Canvas where
  area : Rect
  rows : Array (Array Cell)

namespace Canvas

def blank (area : Rect) : Canvas :=
  ⟨area, Array.replicate area.height (Array.replicate area.width {})⟩

/-- Changes one cell; a cell outside the canvas is left alone. -/
def modify (canvas : Canvas) (x y : Nat) (change : Cell → Cell) : Canvas :=
  if canvas.area.x ≤ x ∧ canvas.area.y ≤ y then
    { canvas with
      rows := canvas.rows.modify (y - canvas.area.y) fun row =>
        row.modify (x - canvas.area.x) change }
  else canvas

def modifyRect (canvas : Canvas) (rect : Rect) (change : Cell → Cell) : Canvas :=
  (List.range' rect.y rect.height).foldl (fun canvas y =>
    (List.range' rect.x rect.width).foldl (fun canvas x => canvas.modify x y change) canvas)
    canvas

def put (canvas : Canvas) (x y : Nat) (symbol : Text) (style : Style) : Canvas :=
  canvas.modify x y (·.draw symbol style)

/-- Draws the border of a rectangle: sides first, then the corners, of which
the top left one is drawn last. -/
def border (canvas : Canvas) (rect : Rect) (style : Style) : Canvas :=
  let columns := List.range' rect.x rect.width
  let lines := List.range' rect.y rect.height
  let last := rect.right - 1
  let low := rect.bottom - 1
  let canvas := lines.foldl (fun canvas y => canvas.put rect.x y ['│'] style) canvas
  let canvas := columns.foldl (fun canvas x => canvas.put x rect.y ['─'] style) canvas
  let canvas := lines.foldl (fun canvas y => canvas.put last y ['│'] style) canvas
  let canvas := columns.foldl (fun canvas x => canvas.put x low ['─'] style) canvas
  (((canvas.put last low ['┘'] style).put last rect.y ['┐'] style).put rect.x low ['└']
    style).put rect.x rect.y ['┌'] style

/-- Draws clusters from column `x` up to column `stop`.  The first cluster
starts a cell; later ones without width join the cell before them. -/
def drawClusters (y start stop : Nat) (style : Style) :
    Canvas → Bool → Nat → List Text → Canvas
  | canvas, _, _, [] => canvas
  | canvas, first, x, cluster :: rest =>
    let next := min (x + Text.width cluster) maxCell
    if stop < next then canvas
    else
      let canvas :=
        if first then canvas.put x y cluster style
        else if x = start then canvas.modify x y (·.append cluster style)
        else if Text.width cluster = 0 then canvas.modify (x - 1) y (·.append cluster style)
        else canvas.put x y cluster style
      let canvas :=
        (List.range' (x + 1) (next - (x + 1))).foldl
          (fun canvas hidden => canvas.modify hidden y fun _ => {}) canvas
      drawClusters y start stop style canvas false next rest

/-- Draws a piece of text on one row, cut at column `stop`, and gives the
column behind it.  Line breaks are not drawn. -/
def drawSpan (canvas : Canvas) (x y stop : Nat) (text : Text) (style : Style) : Canvas × Nat :=
  if Text.width text = 0 ∨ stop ≤ x then (canvas, x)
  else
    let clusters := (Text.clusters text).filter (· != ['\n'])
    (drawClusters y x stop style canvas true x clusters, min (x + Text.width text) stop)

/-- The clusters of a line that fit into a number of columns once the first
`hidden` columns are scrolled away. -/
def fitLine (columns : Nat) : Nat → Nat → List Text → List Text
  | _, _, [] => []
  | hidden, used, cluster :: rest =>
    let width := Text.width cluster
    if columns < width then fitLine columns hidden used rest
    else if columns < used + width then []
    else if hidden = 0 ∨ hidden < width then cluster :: fitLine columns 0 (used + width) rest
    else fitLine columns (hidden - width) used rest

/-- Draws clusters side by side; those without width are dropped. -/
def drawRow (y : Nat) : Canvas → Nat → List Text → Canvas
  | canvas, _, [] => canvas
  | canvas, x, cluster :: rest =>
    let width := Text.width cluster
    if width = 0 then drawRow y canvas x rest
    else drawRow y (canvas.put x y cluster {}) (x + width) rest

/-- Draws a line of text given by its clusters into the row `y` of a
rectangle. -/
def drawLine (canvas : Canvas) (rect : Rect) (y hidden : Nat) (clusters : List Text) : Canvas :=
  drawRow y canvas rect.x (fitLine rect.width hidden 0 (clusters.filter (· != ['\n'])))

/-- The text of each row without the blanks at its end. -/
def texts (canvas : Canvas) : List Text :=
  canvas.rows.toList.map fun row =>
    ((row.toList.flatMap Cell.symbol).reverse.dropWhile (· == ' ')).reverse

end Canvas

end ClassExpr
