/-
Where words and paragraphs begin.  A word is a run of characters of one kind
that are not blank, and a paragraph starts at a line that is not empty behind
an empty one.
-/
import ClassExpr.Terminal.Change
import ClassExpr.Text.Blank

namespace ClassExpr

/-- The kinds of characters that words are made of. -/
inductive WordKind where
  | blank
  | mark
  | letter
  deriving DecidableEq, Repr

/-- The ranges of the ASCII marks, both ends included. -/
def markRanges : List (Nat × Nat) :=
  [(0x21, 0x2F), (0x3A, 0x40), (0x5B, 0x60), (0x7B, 0x7E)]

def WordKind.ofChar (c : Char) : WordKind :=
  if Text.isBlank c then .blank
  else if Text.inRanges markRanges c.toNat then .mark
  else .letter

/-- The place of the first two neighbours in a list that are in a relation. -/
def neighbours? {α : Type} (related : α → α → Bool) (items : List α) : Option Nat :=
  (items.zip items.tail).findIdx? fun pair => related pair.1 pair.2

/-- Whether a word starts at the second of two characters. -/
def startsWord (first second : Char) : Bool :=
  WordKind.ofChar second != .blank && WordKind.ofChar first != WordKind.ofChar second

/-- Whether a word ends before the second of two characters. -/
def endsWord (first second : Char) : Bool :=
  WordKind.ofChar first != .blank && WordKind.ofChar first != WordKind.ofChar second

def nextWordStart? (line : Text) (col : Nat) : Option Nat :=
  (neighbours? startsWord (line.drop col)).map fun place => col + 1 + place

/-- The next column of a line where a word has ended. -/
def nextWordEnd? (line : Text) (col : Nat) : Option Nat :=
  (neighbours? endsWord (line.drop col)).map fun place => col + 1 + place

/-- The last column of a line before `col` where a word starts. -/
def lastWordStart? (line : Text) (col : Nat) : Option Nat :=
  match neighbours? endsWord (line.take col).reverse with
  | some place => some (col - (place + 1))
  | none =>
    match line.take col with
    | [] => none
    | c :: _ => if WordKind.ofChar c = .blank then none else some 0

def nextParagraph? (lines : Lines) (row : Nat) : Option Nat :=
  (neighbours? (fun (first second : Text) => first.isEmpty && !second.isEmpty)
    (lines.drop row)).map fun place => row + 1 + place

/-- The last row before `row` where a paragraph starts behind an empty
line. -/
def lastParagraph? (lines : Lines) (row : Nat) : Option Nat :=
  (neighbours? (fun (second first : Text) => first.isEmpty && !second.isEmpty)
    (lines.take row).reverse).map fun place => row - (place + 1)

end ClassExpr
