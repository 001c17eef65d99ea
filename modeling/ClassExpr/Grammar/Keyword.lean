/-
The reserved words and marks of class expressions.
-/
import ClassExpr.Grammar.Token

namespace ClassExpr

/-- The reserved words. -/
inductive Keyword where
  | not
  | and
  | or
  | some
  | only
  | value
  | min
  | max
  | exactly
  | true
  | false
  deriving DecidableEq, Repr

def Keyword.word : Keyword → Token
  | .not => ['n', 'o', 't']
  | .and => ['a', 'n', 'd']
  | .or => ['o', 'r']
  | .some => ['s', 'o', 'm', 'e']
  | .only => ['o', 'n', 'l', 'y']
  | .value => ['v', 'a', 'l', 'u', 'e']
  | .min => ['m', 'i', 'n']
  | .max => ['m', 'a', 'x']
  | .exactly => ['e', 'x', 'a', 'c', 't', 'l', 'y']
  | .true => ['t', 'r', 'u', 'e']
  | .false => ['f', 'a', 'l', 's', 'e']

namespace Token

def openGroup : Token := ['(']

def closeGroup : Token := [')']

/-- The mark that opens an enumeration of individuals. -/
def openSet : Token := ['\x7b']

/-- The mark that closes an enumeration of individuals. -/
def closeSet : Token := ['\x7d']

/-- The mark between the individuals of an enumeration. -/
def comma : Token := [',']

end Token

end ClassExpr
