/-
Changes of a text that is kept as lines, and the history that undoes them.  A
change inserts or deletes some pieces of text between two positions; each
piece but the first stands on a line of its own.
-/
import ClassExpr.Text.Basic

namespace ClassExpr

abbrev Lines := List Text

/-- A row and a column, both counted from zero. -/
structure Position where
  row : Nat
  col : Nat
  deriving DecidableEq, Repr

namespace Position

def before (first second : Position) : Bool :=
  first.row < second.row || (first.row == second.row && first.col < second.col)

/-- The position behind pieces of text that start at a position. -/
def behind (start : Position) : Lines → Position
  | [] => start
  | [piece] => ⟨start.row, start.col + piece.length⟩
  | _ :: rest => ⟨start.row + rest.length, (rest.getLast?.getD []).length⟩

end Position

namespace Lines

def line (lines : Lines) (row : Nat) : Text :=
  lines[row]?.getD []

/-- A column of a row, cut at the end of the line. -/
def fit (lines : Lines) (row col : Nat) : Position :=
  ⟨row, min col (lines.line row).length⟩

/-- The position that is nearest to a row and a column. -/
def nearest (lines : Lines) (position : Position) : Position :=
  lines.fit (min position.row (lines.length - 1)) position.col

def between (lines : Lines) (first last : Position) : Lines :=
  if first.row = last.row then [((lines.line first.row).take last.col).drop first.col]
  else
    (lines.line first.row).drop first.col ::
      ((lines.take last.row).drop (first.row + 1) ++ [(lines.line last.row).take last.col])

def insertAt (lines : Lines) (start : Position) (pieces : Lines) : Lines :=
  let left := (lines.line start.row).take start.col
  let right := (lines.line start.row).drop start.col
  match pieces with
  | [] => lines
  | [piece] => lines.take start.row ++ (left ++ piece ++ right) :: lines.drop (start.row + 1)
  | first :: rest =>
    lines.take start.row ++ (left ++ first) ::
      (rest.dropLast ++ (rest.getLast?.getD [] ++ right) :: lines.drop (start.row + 1))

def deleteBetween (lines : Lines) (first last : Position) : Lines :=
  let joined := (lines.line first.row).take first.col ++ (lines.line last.row).drop last.col
  lines.take first.row ++ joined :: lines.drop (last.row + 1)

end Lines

/-- An insertion or a deletion of the pieces between two positions. -/
structure Change where
  inserts : Bool
  first : Position
  last : Position
  pieces : Lines
  deriving DecidableEq, Repr

namespace Change

def insertion (start : Position) (pieces : Lines) : Change :=
  ⟨true, start, start.behind pieces, pieces⟩

def deletion (lines : Lines) (first last : Position) : Change :=
  ⟨false, first, last, lines.between first last⟩

def inverse (change : Change) : Change :=
  { change with inserts := !change.inserts }

def apply (change : Change) (lines : Lines) : Lines :=
  if change.inserts then lines.insertAt change.first change.pieces
  else lines.deleteBetween change.first change.last

/-- The position of the cursor after a change: behind what was inserted, or
where something was deleted. -/
def target (change : Change) : Position :=
  if change.inserts then change.last else change.first

end Change

/-- The changes that can be taken back, the last one first, and those that
were taken back, again the last one first. -/
structure History where
  done : List Change := []
  undone : List Change := []
  deriving DecidableEq, Repr

namespace History

def limit : Nat := 50

/-- Notes a change.  What was taken back is lost, and so is the oldest change
if the history was full. -/
def push (history : History) (change : Change) : History :=
  if history.done.length + history.undone.length < limit then ⟨change :: history.done, []⟩
  else ⟨change :: history.done.dropLast, []⟩

end History

end ClassExpr
