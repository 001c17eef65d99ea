/-
Lower-casing of whole texts.  Every character is mapped on its own, except
that a capital sigma looks at its neighbours: it becomes a final sigma at the
end of a word and an ordinary one elsewhere.
-/
import ClassExpr.Text.Blank
import ClassExpr.Text.CaseTable

namespace ClassExpr
namespace Text

/-- The lower-case form of one character outside any context. -/
def lowerChar (c : Char) : Text :=
  if c.toNat < 0x80 then [c.toLower]
  else if c = 'İ' then ['i', '̇']
  else
    match caseRuns.find? (·.covers c.toNat) with
    | some run => [Char.ofNat (c.toNat + run.shift).toNat]
    | none => [c]

def isCased (c : Char) : Bool :=
  inRanges casedRanges c.toNat

/-- Whether a character is passed over when looking for a cased neighbour. -/
def isCaseIgnorable (c : Char) : Bool :=
  inRanges caseIgnorableRanges c.toNat

/-- Whether the first character that is not passed over has case. -/
def startsCased (text : Text) : Bool :=
  match text.dropWhile isCaseIgnorable with
  | [] => false
  | c :: _ => isCased c

/-- The lower-case form of a capital sigma, given the text before it in
reverse and the text after it. -/
def lowerSigma (before after : Text) : Char :=
  if startsCased before && !startsCased after then 'ς' else 'σ'

/-- The lower-case form of a character, given the text before it in reverse
and the text after it. -/
def lowerIn (before : Text) (c : Char) (after : Text) : Text :=
  if c = 'Σ' then [lowerSigma before after] else lowerChar c

/-- Lower-cases the rest of a text, given the text before it and the result
so far, both in reverse. -/
def lowercaseOnto (before result : Text) : Text → Text
  | [] => result.reverse
  | c :: rest => lowercaseOnto (c :: before) ((lowerIn before c rest).reverse ++ result) rest

def lowercase (text : Text) : Text :=
  lowercaseOnto [] [] text

theorem lowercaseOnto_eq (before result text : Text) :
    lowercaseOnto before result text = result.reverse ++ lowercaseOnto before [] text := by
  induction text generalizing before result with
  | nil => simp [lowercaseOnto]
  | cons c rest ih =>
    rw [lowercaseOnto, ih, lowercaseOnto, ih _ ((lowerIn before c rest).reverse ++ [])]
    simp

/-- Whether `text` begins with `start` when case is ignored. -/
def startsWithFolded (text start : Text) : Bool :=
  (lowercase start).isPrefixOf (lowercase text)

end Text
end ClassExpr
