/-
Numbers written as words: cardinalities and real literals.
-/
import ClassExpr.Text.Basic

namespace ClassExpr
namespace Text

def digit? (c : Char) : Option Nat :=
  if c.isDigit then some (c.toNat - '0'.toNat) else none

/-- The number that a nonempty run of decimal digits writes. -/
def decimal? (text : Text) : Option Nat :=
  if text.isEmpty || !text.all Char.isDigit then none
  else some (text.foldl (fun value c => 10 * value + (c.toNat - '0'.toNat)) 0)

/-- The largest number of 32 bits, which is the largest cardinality. -/
def max32 : Nat := 4294967295

def max64 : Nat := 18446744073709551615

/-- A cardinality is a decimal number of at most 32 bits with an optional
plus sign. -/
def cardinality? (text : Text) : Option Nat :=
  let digits :=
    match text with
    | '+' :: rest => rest
    | other => other
  (decimal? digits).filter (· ≤ max32)

/-- A text without one leading sign. -/
def dropSign (text : Text) : Text :=
  match text with
  | '+' :: rest => rest
  | '-' :: rest => rest
  | other => other

/-- The part of a real literal after its digits: nothing, or an exponent. -/
def isExponent (text : Text) : Bool :=
  match text with
  | [] => true
  | c :: rest =>
    (c == 'e' || c == 'E') && !(dropSign rest).isEmpty && (dropSign rest).all Char.isDigit

/-- Digits with an optional point, at least one digit among them, and an
optional exponent. -/
def isDecimalReal (text : Text) : Bool :=
  let whole := text.takeWhile Char.isDigit
  let rest := text.dropWhile Char.isDigit
  match rest with
  | '.' :: tail =>
    let fraction := tail.takeWhile Char.isDigit
    !(whole.isEmpty && fraction.isEmpty) && isExponent (tail.dropWhile Char.isDigit)
  | _ => !whole.isEmpty && isExponent rest

/-- The words for infinity and for no number. -/
def isSpecialReal (text : Text) : Bool :=
  let word := text.map Char.toLower
  word == ['i', 'n', 'f'] || word == ['i', 'n', 'f', 'i', 'n', 'i', 't', 'y'] ||
    word == ['n', 'a', 'n']

def isReal (text : Text) : Bool :=
  isDecimalReal (dropSign text) || isSpecialReal (dropSign text)

end Text
end ClassExpr
