/-
Byte positions in a text, each character counted by the size of its UTF-8
form.  An edit names its place by a character offset; the byte index of that
offset is always a boundary between two characters, so cutting at it is the
same as cutting the list of characters.
-/
import ClassExpr.Text.Basic

namespace ClassExpr
namespace Text

def utf8Length (text : Text) : Nat :=
  text.foldl (fun size c => size + c.utf8Size) 0

/-- The byte index of a character offset, counted from `base`. -/
def byteIndexFrom (base : Nat) : Text → Nat → Option Nat
  | _, 0 => some base
  | [], _ + 1 => none
  | c :: rest, offset + 1 => byteIndexFrom (base + c.utf8Size) rest offset

/-- The byte index of a character offset.  The position just past the last
character has one; positions beyond it do not. -/
def byteIndex? (text : Text) (offset : Nat) : Option Nat :=
  byteIndexFrom 0 text offset

/-- Moves characters to `before`, kept in reverse, while they fit into
`budget` bytes. -/
def splitBytesFrom (before : Text) : Nat → Text → Text × Text
  | _, [] => (before.reverse, [])
  | budget, c :: rest =>
    if c.utf8Size ≤ budget then
      splitBytesFrom (c :: before) (budget - c.utf8Size) rest
    else (before.reverse, c :: rest)

/-- Splits a text at a byte index, or at the last character boundary before
it. -/
def splitBytes (index : Nat) (text : Text) : Text × Text :=
  splitBytesFrom [] index text

/-- Replaces the bytes from `first` up to `last` by `word`. -/
def spliceBytes (text : Text) (first last : Nat) (word : Text) : Text :=
  (splitBytes first text).1 ++ word ++ (splitBytes last text).2

end Text
end ClassExpr
