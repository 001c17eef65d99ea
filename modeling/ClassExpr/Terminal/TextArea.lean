/-
A text as lines with a cursor, and a selection between the cursor and a
fixed other end.  Moving the cursor extends an active selection, and every
edit deletes it first.  Edits can be undone, and what was cut out can be put
in again.
-/
import ClassExpr.Terminal.Change
import ClassExpr.Terminal.Window
import ClassExpr.Terminal.WordKind
import ClassExpr.Text.Width

namespace ClassExpr

/-- Lines with a cursor and the fixed end of a selection. -/
structure TextArea where
  lines : Lines
  cursor : Position
  selection : Option Position := none
  /-- The pieces of text that were cut out or copied last. -/
  clip : Lines := [[]]
  history : History := {}
  /-- The part of the text that was drawn last. -/
  window : Window := {}
  deriving DecidableEq, Repr

/-- The ways the cursor moves. -/
inductive CursorMove where
  | up
  | down
  | back
  | forward
  | head
  | tail
  | top
  | bottom
  | wordForward
  | wordBack
  | paragraphForward
  | paragraphBack
  | intoWindow
  | jump (row col : Nat)
  deriving DecidableEq, Repr

namespace TextArea

def line (area : TextArea) (row : Nat) : Text :=
  area.lines.line row

/-- A column of a row, cut at the end of the line. -/
def fit (area : TextArea) (row col : Nat) : Position :=
  area.lines.fit row col

/-- Where a move leads; some moves lead nowhere at the ends of the text. -/
def target? (area : TextArea) : CursorMove → Option Position
  | .up =>
    if area.cursor.row = 0 then none
    else some (area.fit (area.cursor.row - 1) area.cursor.col)
  | .down =>
    if area.cursor.row + 1 < area.lines.length then
      some (area.fit (area.cursor.row + 1) area.cursor.col)
    else none
  | .back =>
    if area.cursor.col = 0 then
      if area.cursor.row = 0 then none
      else some ⟨area.cursor.row - 1, (area.line (area.cursor.row - 1)).length⟩
    else some ⟨area.cursor.row, area.cursor.col - 1⟩
  | .forward =>
    if area.cursor.col < (area.line area.cursor.row).length then
      some ⟨area.cursor.row, area.cursor.col + 1⟩
    else if area.cursor.row + 1 < area.lines.length then some ⟨area.cursor.row + 1, 0⟩
    else none
  | .head => some ⟨area.cursor.row, 0⟩
  | .tail => some ⟨area.cursor.row, (area.line area.cursor.row).length⟩
  | .top => some (area.fit 0 area.cursor.col)
  | .bottom => some (area.fit (area.lines.length - 1) area.cursor.col)
  | .wordForward =>
    match nextWordStart? (area.line area.cursor.row) area.cursor.col with
    | some col => some ⟨area.cursor.row, col⟩
    | none =>
      if area.cursor.row + 1 < area.lines.length then some ⟨area.cursor.row + 1, 0⟩
      else some ⟨area.cursor.row, (area.line area.cursor.row).length⟩
  | .wordBack =>
    match lastWordStart? (area.line area.cursor.row) area.cursor.col with
    | some col => some ⟨area.cursor.row, col⟩
    | none =>
      if area.cursor.row = 0 then some ⟨0, 0⟩
      else some ⟨area.cursor.row - 1, (area.line (area.cursor.row - 1)).length⟩
  | .paragraphForward =>
    some (area.fit ((nextParagraph? area.lines area.cursor.row).getD (area.lines.length - 1))
      area.cursor.col)
  | .paragraphBack =>
    if area.cursor.row = 0 then none
    else
      some (area.fit ((lastParagraph? area.lines area.cursor.row).getD 0) area.cursor.col)
  | .intoWindow => some (area.lines.nearest (area.window.nearest area.cursor))
  | .jump row col => some (area.lines.nearest ⟨row, col⟩)

/-- Moves the cursor and either extends the selection or drops it. -/
def moveWith (area : TextArea) (move : CursorMove) (extend : Bool) : TextArea :=
  match area.target? move with
  | none => area
  | some position =>
    { area with
      cursor := position
      selection := if extend then some (area.selection.getD area.cursor) else none }

/-- Moves the cursor and extends the selection if there is one. -/
def move (area : TextArea) (move : CursorMove) : TextArea :=
  area.moveWith move area.selection.isSome

/-- Turns the window a page down or up and moves the cursor into it. -/
def turnPage (area : TextArea) (down extend : Bool) : TextArea :=
  moveWith { area with window := area.window.page down } .intoWindow extend

/-- The two ends of a selection that is not empty, first one first. -/
def selected? (area : TextArea) : Option (Position × Position) :=
  match area.selection with
  | none => none
  | some other =>
    if other.before area.cursor then some (other, area.cursor)
    else if area.cursor.before other then some (area.cursor, other)
    else none

/-- Carries out a change and notes it in the history. -/
def change (area : TextArea) (change : Change) : TextArea :=
  { area with
    lines := change.apply area.lines
    cursor := change.target
    history := area.history.push change }

def undo (area : TextArea) : TextArea × Bool :=
  match area.history.done with
  | [] => (area, false)
  | change :: done =>
    let lines := change.inverse.apply area.lines
    ({ area with
       lines
       cursor := lines.nearest change.inverse.target
       selection := none
       history := ⟨done, change :: area.history.undone⟩ }, true)

/-- Carries out the change again that was taken back last. -/
def redo (area : TextArea) : TextArea × Bool :=
  match area.history.undone with
  | [] => (area, false)
  | change :: undone =>
    let lines := change.apply area.lines
    ({ area with
       lines
       cursor := lines.nearest change.target
       selection := none
       history := ⟨change :: area.history.done, undone⟩ }, true)

/-- Deletes the text between two positions and leaves the cursor there. -/
def deleteRange (area : TextArea) (first last : Position) : TextArea :=
  area.change (.deletion area.lines first last)

/-- Deletes the text between two positions and keeps it for putting it in
again. -/
def cutRange (area : TextArea) (first last : Position) : TextArea :=
  { area.deleteRange first last with clip := area.lines.between first last }

/-- Drops the selection and deletes its text if it had any. -/
def deleteSelection (area : TextArea) : TextArea × Bool :=
  match area.selected? with
  | some (first, last) => (deleteRange { area with selection := none } first last, true)
  | none => ({ area with selection := none }, false)

/-- Drops the selection and cuts its text out if it had any. -/
def cut (area : TextArea) : TextArea × Bool :=
  match area.selected? with
  | some (first, last) => (cutRange { area with selection := none } first last, true)
  | none => ({ area with selection := none }, false)

/-- Drops the selection and keeps its text if it had any. -/
def copy (area : TextArea) : TextArea :=
  match area.selected? with
  | some (first, last) =>
    { area with selection := none, clip := area.lines.between first last }
  | none => { area with selection := none }

/-- Puts pieces of text at the cursor, each but the first on a new line.  One
empty piece is no edit. -/
def insertLines (area : TextArea) (pieces : Lines) : TextArea × Bool :=
  if pieces = [[]] then (area, false)
  else (area.change (.insertion area.cursor pieces), true)

/-- Puts in what was cut out or copied last. -/
def paste (area : TextArea) : TextArea × Bool :=
  insertLines area.deleteSelection.1 area.clip

/-- A line without one carriage return at its end. -/
def dropReturn (line : Text) : Text :=
  if line.getLast? = some '\r' then line.dropLast else line

/-- Inserts a text at the cursor, with its own line breaks. -/
def insertText (area : TextArea) (text : Text) : TextArea :=
  (insertLines area.deleteSelection.1 ((Text.lines text).map dropReturn)).1

def insertBreak (area : TextArea) : TextArea :=
  (insertLines area.deleteSelection.1 [[], []]).1

/-- Inserts one character; a line feed or carriage return breaks the line. -/
def insertChar (area : TextArea) (c : Char) : TextArea :=
  if c = '\n' ∨ c = '\r' then area.insertBreak
  else (insertLines area.deleteSelection.1 [[c]]).1

def tabLength : Nat := 4

/-- Inserts blanks up to the next tab stop. -/
def insertTab (area : TextArea) : TextArea :=
  let area := area.deleteSelection.1
  let before := (area.line area.cursor.row).take area.cursor.col
  let columns := before.foldl (fun columns c => columns + Text.tabWidth c) 0
  (area.insertLines [List.replicate (tabLength - columns % tabLength) ' ']).1

/-- The position of an offset in the lines from `row` on. -/
def positionFrom (row : Nat) : Lines → Nat → Option Position
  | [], _ => none
  | line :: rest, offset =>
    if offset ≤ line.length then some ⟨row, offset⟩
    else positionFrom (row + 1) rest (offset - (line.length + 1))

def position? (area : TextArea) (offset : Nat) : Option Position :=
  positionFrom 0 area.lines offset

def offset (area : TextArea) (position : Position) : Nat :=
  (area.lines.take position.row).foldl (fun count line => count + (line.length + 1)) 0 +
    position.col

/-- Cuts out characters after the cursor, or else deletes the selection. -/
def deleteText (area : TextArea) (count : Nat) : TextArea :=
  let (area, deleted) := area.deleteSelection
  if deleted then area
  else
    let last := area.position? (area.offset area.cursor + count)
    area.cutRange area.cursor (last.getD ⟨area.lines.length, 0⟩)

/-- Deletes the selection, or else does something else. -/
def deletingSelection (area : TextArea) (delete : TextArea → TextArea × Bool) :
    TextArea × Bool :=
  let (area, deleted) := area.deleteSelection
  if deleted then (area, true) else delete area

/-- Deletes the character before the cursor, or else the selection. -/
def deleteBack (area : TextArea) : TextArea × Bool :=
  area.deletingSelection fun area =>
    match area.target? .back with
    | none => (area, false)
    | some position => (area.deleteRange position area.cursor, true)

/-- Deletes the character after the cursor, or else the selection. -/
def deleteNext (area : TextArea) : TextArea × Bool :=
  area.deletingSelection fun area =>
    match area.target? .forward with
    | none => (area, false)
    | some position => (area.deleteRange area.cursor position, true)

/-- Cuts out the rest of the line, or the break behind it if there is no
rest. -/
def deleteToTail (area : TextArea) : TextArea × Bool :=
  area.deletingSelection fun area =>
    let last : Position := ⟨area.cursor.row, (area.line area.cursor.row).length⟩
    if area.cursor.before last then (area.cutRange area.cursor last, true)
    else area.deleteNext

/-- Cuts out the line up to the cursor, or deletes the break before it. -/
def deleteToHead (area : TextArea) : TextArea × Bool :=
  area.deletingSelection fun area =>
    if area.cursor.col = 0 then area.deleteBack
    else (area.cutRange ⟨area.cursor.row, 0⟩ area.cursor, true)

/-- Cuts out the word before the cursor, or deletes the break before it. -/
def deleteWord (area : TextArea) : TextArea × Bool :=
  area.deletingSelection fun area =>
    if area.cursor.col = 0 then area.deleteBack
    else
      let col := (lastWordStart? (area.line area.cursor.row) area.cursor.col).getD 0
      (area.cutRange ⟨area.cursor.row, col⟩ area.cursor, true)

/-- Cuts out the word after the cursor, or deletes the break behind it. -/
def deleteNextWord (area : TextArea) : TextArea × Bool :=
  area.deletingSelection fun area =>
    let line := area.line area.cursor.row
    if area.cursor.col < line.length then
      let col := (nextWordEnd? line area.cursor.col).getD line.length
      (area.cutRange area.cursor ⟨area.cursor.row, col⟩, true)
    else area.deleteNext

/-- A text with the cursor at its end. -/
def ofText (text : Text) : TextArea :=
  (move { lines := Text.lines text, cursor := ⟨0, 0⟩ } .bottom).move .tail

def text (area : TextArea) : Text :=
  Text.unlines area.lines

/-- The number of characters of the text, a line break counting as one. -/
def length (area : TextArea) : Nat :=
  area.lines.foldl (fun count line => count + line.length) 0 + (area.lines.length - 1)

end TextArea

end ClassExpr
