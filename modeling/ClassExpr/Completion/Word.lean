/-
The partial word at the caret: the longest piece of text that ends at the
caret and holds no delimiter.
-/
import ClassExpr.Completion.Fault

namespace ClassExpr

/-- The characters that end a word, in the order they were added. -/
structure Delimiters where
  chars : List Char
  deriving DecidableEq, Repr

namespace Delimiters

/-- The delimiters of class expressions.  Tabs and carriage returns are not
among them. -/
def standard : Delimiters :=
  ⟨[' ', '\n', '[', ']', '\x7b', '\x7d', '(', ')', ',', '^']⟩

def contains (delimiters : Delimiters) (c : Char) : Bool :=
  delimiters.chars.contains c

/-- The set with one more character, unless it is already there. -/
def insert (delimiters : Delimiters) (c : Char) : Delimiters :=
  if delimiters.contains c then delimiters else ⟨delimiters.chars ++ [c]⟩

def insertMany (delimiters : Delimiters) (extra : List Char) : Delimiters :=
  extra.foldl insert delimiters

@[simp] theorem contains_insert (delimiters : Delimiters) (added c : Char) :
    (delimiters.insert added).contains c = (c == added || delimiters.contains c) := by
  unfold insert
  split
  · rename_i h
    by_cases hc : c = added
    · simp [hc, h]
    · simp [hc]
  · by_cases hc : c = added <;> simp [contains, hc]

theorem contains_insertMany (delimiters : Delimiters) (extra : List Char) (c : Char) :
    (delimiters.insertMany extra).contains c =
      (extra.contains c || delimiters.contains c) := by
  induction extra generalizing delimiters with
  | nil => simp [insertMany]
  | cons added rest ih =>
      have h : delimiters.insertMany (added :: rest) =
          (delimiters.insert added).insertMany rest := rfl
      rw [h, ih, contains_insert, List.contains_cons]
      cases rest.contains c <;> cases c == added <;> rfl

end Delimiters

/-- A word that ends at the caret. -/
structure PartialWord where
  start : Nat
  caret : Nat
  text : Text
  deriving DecidableEq, Repr

namespace PartialWord

/-- The number of characters between the start of the word and the caret. -/
def length (word : PartialWord) : Nat :=
  word.caret - word.start

/-- Whether the caret stands right at the start of the word. -/
def isEmpty (word : PartialWord) : Bool :=
  word.start == word.caret

end PartialWord

/-- The part of a text after its last delimiter. -/
def Delimiters.lastWord (delimiters : Delimiters) (text : Text) : Text :=
  (text.reverse.takeWhile fun c => !delimiters.contains c).reverse

/-- The partial word of a text at a caret.  At the very start of the text
there is none, and a caret beyond the end is out of range. -/
def Delimiters.locate (delimiters : Delimiters) (text : Text) (caret : Nat) :
    Except Fault (Option PartialWord) :=
  if caret = 0 then .ok none
  else
    let before := text.take caret
    if before.length < caret then .error (.outOfRange caret 0)
    else
      let word := delimiters.lastWord before
      .ok (some ⟨before.length - word.length, caret, word⟩)

end ClassExpr
