/-
What a checker of class expressions answers about a text.  A text is
accepted, or it breaks the grammar at some token and the checker says what
could have stood there, or the checker fails for a reason of its own.
-/
import ClassExpr.Entity.Basic

namespace ClassExpr

/-- What may stand at a place: kinds of entity, and keywords in the order the
grammar gives them. -/
structure Expectations where
  kinds : KindSet := {}
  keywords : List Text := []
  deriving DecidableEq, Repr

/-- The answer of a checker. -/
inductive Verdict where
  | accepted
  | expected (expectations : Expectations)
  | failed (message : Text)
  deriving DecidableEq, Repr

abbrev Checker := Text → Verdict

end ClassExpr
