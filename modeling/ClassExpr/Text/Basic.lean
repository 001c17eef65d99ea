/-
Text as a list of characters, cut into lines at line breaks and joined again.
Every offset of the library counts characters of such a list.
-/

namespace ClassExpr

/-- A text is the list of its characters. -/
abbrev Text := List Char

namespace Text

/-- One character read from the right: a line break opens a new first line,
any other character joins the first line. -/
def consLine (c : Char) (lines : List Text) : List Text :=
  if c = '\n' then [] :: lines
  else
    match lines with
    | [] => [[c]]
    | line :: rest => (c :: line) :: rest

/-- The lines of a text.  There is always at least one, and a final line
break leaves an empty last line. -/
def lines (text : Text) : List Text :=
  text.foldr consLine [[]]

/-- Lines put back together with a line break between neighbours. -/
def unlines (lines : List Text) : Text :=
  List.intercalate ['\n'] lines

/-- The part of a text before its last line break is dropped. -/
def lastLine (text : Text) : Text :=
  (text.reverse.takeWhile (· != '\n')).reverse

def breaks (text : Text) : Nat :=
  text.countP (· == '\n')

def ofNat (n : Nat) : Text :=
  Nat.toDigits 10 n

theorem lines_nil : lines [] = [[]] := rfl

theorem lines_cons (c : Char) (text : Text) :
    lines (c :: text) = consLine c (lines text) := rfl

theorem lines_ne_nil (text : Text) : lines text ≠ [] := by
  cases text with
  | nil => simp [lines]
  | cons c rest =>
      rw [lines_cons]
      unfold consLine
      split
      · simp
      · split <;> simp

end Text

end ClassExpr
