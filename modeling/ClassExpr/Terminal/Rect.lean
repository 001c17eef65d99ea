/-
Rectangles of terminal cells.  Cell coordinates are below 65536, and a
rectangle made from a corner and a size is cut so that its edges are too.
-/

namespace ClassExpr

def maxCell : Nat := 65535

structure Rect where
  x : Nat := 0
  y : Nat := 0
  width : Nat := 0
  height : Nat := 0
  deriving DecidableEq, Repr

namespace Rect

/-- The rectangle with a corner and a size, cut at the largest coordinate. -/
def ofSize (x y width height : Nat) : Rect :=
  ⟨x, y, min width (maxCell - x), min height (maxCell - y)⟩

/-- The first column to the right of the rectangle. -/
def right (rect : Rect) : Nat :=
  min (rect.x + rect.width) maxCell

/-- The first row below the rectangle. -/
def bottom (rect : Rect) : Nat :=
  min (rect.y + rect.height) maxCell

def isEmpty (rect : Rect) : Bool :=
  rect.width == 0 || rect.height == 0

def contains (rect : Rect) (x y : Nat) : Bool :=
  rect.x ≤ x && x < rect.right && rect.y ≤ y && y < rect.bottom

def intersect (rect other : Rect) : Rect :=
  let left := max rect.x other.x
  let top := max rect.y other.y
  ⟨left, top, min rect.right other.right - left, min rect.bottom other.bottom - top⟩

/-- The rectangle without a border of one cell. -/
def inner (rect : Rect) : Rect :=
  ⟨min (rect.x + 1) rect.right, min (rect.y + 1) rect.bottom, rect.width - 2, rect.height - 2⟩

end Rect

end ClassExpr
