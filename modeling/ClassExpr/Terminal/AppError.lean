/-
What the terminal program reports when it cannot go on.
-/
import ClassExpr.Completion.Fault

namespace ClassExpr

/-- The errors of the program. -/
inductive AppError where
  | completion (fault : Fault)
  | terminal (message : Text)
  deriving DecidableEq, Repr

def AppError.message : AppError → Text
  | .completion fault => "Completion error: ".toList ++ fault.message
  | .terminal message => "Terminal error: ".toList ++ message

end ClassExpr
