/-
The short form of an IRI: its fragment, or else its last path segment.
Separators at the end of the IRI are left out first.
-/
import ClassExpr.Entity.Basic

namespace ClassExpr

/-- The characters that end a segment of an IRI. -/
def isSeparator (c : Char) : Bool :=
  c == '/' || c == '#'

/-- The IRI without separators at its end. -/
def trimSeparators (iri : Text) : Text :=
  (iri.reverse.dropWhile isSeparator).reverse

/-- The part of a text after the last occurrence of a character, if it
occurs. -/
def afterLast? (c : Char) (text : Text) : Option Text :=
  if c ∈ text then some (text.reverse.takeWhile (· != c)).reverse else none

/-- The short form of an IRI.  An IRI that has nothing but separators keeps
its full form. -/
def shortForm (iri : Text) : Text :=
  let trimmed := trimSeparators iri
  let short := ((afterLast? '#' trimmed).or (afterLast? '/' trimmed)).getD trimmed
  if short.isEmpty then iri else short

/-- Entities written by the short form of their IRI. -/
def Entity.short : Rendering := fun entity => shortForm entity.iri

end ClassExpr
