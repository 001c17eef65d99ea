/-
A place in a YAML text, and the characters that structure it.
-/
import ClassExpr.Text.Utf8

namespace ClassExpr
namespace Yaml

def isBlank (c : Char) : Bool :=
  c == ' ' || c == '\t'

def isBreak (c : Char) : Bool :=
  c == '\n' || c == '\r' || c.toNat == 0x85 || c.toNat == 0x2028 || c.toNat == 0x2029

/-- Line breaks as they appear in a value: only the two Unicode separators
keep their own character. -/
def breakChar (c : Char) : Char :=
  if c.toNat == 0x2028 || c.toNat == 0x2029 then c else '\n'

/-- The characters that a YAML text may hold. -/
def isAllowed (c : Char) : Bool :=
  let code := c.toNat
  code == 0x09 || code == 0x0A || code == 0x0D || (0x20 ≤ code && code ≤ 0x7E) ||
    code == 0x85 || (0xA0 ≤ code && code ≤ 0xD7FF) || (0xE000 ≤ code && code ≤ 0xFFFD) ||
    0x10000 ≤ code

def isByteOrderMark (c : Char) : Bool :=
  c.toNat == 0xFEFF

/-- Whether a text is at its end or goes on with a blank or a line break. -/
def endsWord : Text → Bool
  | [] => true
  | c :: _ => isBlank c || isBreak c

/-- The rest of a text with the place where it begins.  The index counts
bytes, the column characters. -/
structure Cursor where
  rest : Text
  index : Nat := 0
  line : Nat := 0
  col : Nat := 0

namespace Cursor

/-- Passes over characters of one line. -/
def skip (cursor : Cursor) (count : Nat) : Cursor :=
  { cursor with
    rest := cursor.rest.drop count
    index := cursor.index + Text.utf8Length (cursor.rest.take count)
    col := cursor.col + count }

/-- Passes over a line break; a carriage return takes a line feed behind it
along. -/
def skipBreak (cursor : Cursor) : Cursor :=
  let count :=
    match cursor.rest with
    | '\r' :: '\n' :: _ => 2
    | _ => 1
  { rest := cursor.rest.drop count
    index := cursor.index + Text.utf8Length (cursor.rest.take count)
    line := cursor.line + 1
    col := 0 }

def skipLine (cursor : Cursor) : Cursor :=
  cursor.skip (cursor.rest.takeWhile fun c => !isBreak c).length

/-- Whether three equal marks stand alone at the start of a line. -/
def atMarker (cursor : Cursor) (mark : Char) : Bool :=
  cursor.col == 0 && cursor.rest.take 3 == [mark, mark, mark] && endsWord (cursor.rest.drop 3)

def atDocumentMarker (cursor : Cursor) : Bool :=
  cursor.atMarker '-' || cursor.atMarker '.'

end Cursor

end Yaml
end ClassExpr
