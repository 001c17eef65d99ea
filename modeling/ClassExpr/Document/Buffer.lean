/-
A document held in memory.  Text is laid out on a grid with one unit for a
character; a document without an origin has no place on the screen.
-/
import ClassExpr.Document.Surface
import ClassExpr.Text.Utf8

namespace ClassExpr

/-- A text with a caret and its place on the screen. -/
structure Buffer where
  text : Text
  caret : Nat
  origin : Option Anchor := some ⟨0, 0⟩
  lineHeight : Int := 1
  deriving DecidableEq, Repr

namespace Buffer

/-- A text with the caret at its end. -/
def ofText (text : Text) : Buffer :=
  { text, caret := text.length }

/-- The buffer with its caret moved, at most to the end. -/
def withCaret (buffer : Buffer) (caret : Nat) : Buffer :=
  { buffer with caret := min caret buffer.text.length }

/-- Replaces the whole text and keeps the caret in range. -/
def setText (buffer : Buffer) (text : Text) : Buffer :=
  { buffer with text, caret := min buffer.caret text.length }

/-- Inserts a text at the caret as if it were typed. -/
def type (buffer : Buffer) (typed : Text) : Buffer :=
  match buffer.text.byteIndex? buffer.caret with
  | none => buffer
  | some index =>
    { buffer with
      text := buffer.text.spliceBytes index index typed
      caret := buffer.caret + typed.length }

def setCaret (buffer : Buffer) (offset : Nat) : Edited Buffer :=
  if buffer.text.length < offset then .refused buffer (.outOfRange offset 0)
  else ⟨{ buffer with caret := offset }, none⟩

/-- The caret after the characters from `start` to `stop` are gone. -/
def caretAfterRemoval (caret start stop : Nat) : Nat :=
  if stop < caret then caret - (stop - start)
  else if start < caret then start
  else caret

/-- Deletes characters; the caret stays between the same neighbours. -/
def remove (buffer : Buffer) (start length : Nat) : Edited Buffer :=
  match buffer.text.byteIndex? start, buffer.text.byteIndex? (start + length) with
  | some first, some last =>
    ⟨{ buffer with
        text := buffer.text.spliceBytes first last []
        caret := caretAfterRemoval buffer.caret start (start + length) }, none⟩
  | _, _ => .refused buffer (.outOfRange start length)

/-- Inserts a text and moves the caret behind it. -/
def insert (buffer : Buffer) (offset : Nat) (word : Text) : Edited Buffer :=
  match buffer.text.byteIndex? offset with
  | some index =>
    ⟨{ buffer with
        text := buffer.text.spliceBytes index index word
        caret := offset + word.length }, none⟩
  | none => .refused buffer (.outOfRange offset 0)

/-- The place of a character: its column and row counted from the origin. -/
def anchor? (buffer : Buffer) (offset : Nat) : Option Anchor :=
  match buffer.origin with
  | none => none
  | some origin =>
    let before := buffer.text.take offset
    if before.length < offset then none
    else
      some ⟨origin.x + (Text.lastLine before).length,
        origin.y + Text.breaks before * buffer.lineHeight⟩

instance : Surface Buffer where
  text := Buffer.text
  caret := Buffer.caret
  setCaret := setCaret
  remove := remove
  insert := insert
  anchor? := anchor?
  lineHeight := Buffer.lineHeight

end Buffer

end ClassExpr
