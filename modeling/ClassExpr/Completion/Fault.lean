/-
What can go wrong while a completion is computed or applied.
-/
import ClassExpr.Text.Basic

namespace ClassExpr

/-- The causes of a refused operation. -/
inductive Fault where
  /-- A place outside the document. -/
  | outOfRange (offset length : Nat)
  /-- The checker failed without saying what it expected. -/
  | checkerFailed (message : Text)
  /-- Settings that make no sense. -/
  | badSettings (reason : Text)
  /-- A sum beyond 64 bits.  It is no answer of the operation: the program
  stops. -/
  | overflow
  deriving DecidableEq, Repr

def Fault.message : Fault → Text
  | .outOfRange offset length =>
    "document access out of range: offset ".toList ++ Text.ofNat offset ++
      ", length ".toList ++ Text.ofNat length
  | .checkerFailed message => "expression checker failed: ".toList ++ message
  | .badSettings reason => "configuration error: ".toList ++ reason
  | .overflow => "attempt to add with overflow".toList

end ClassExpr
