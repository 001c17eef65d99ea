/-
Asking a checker what may follow a piece of text.  A sentinel that fits
nowhere is put after the text, so the checker stops there and says what it
expected.
-/
import ClassExpr.Completion.Fault
import ClassExpr.Grammar.Expectations

namespace ClassExpr

/-- A checker with the sentinel that provokes its answer. -/
structure Probe where
  checker : Checker
  sentinel : Text

def defaultSentinel : Text := ['*', '*']

/-- What a probe finds out. -/
inductive Finding where
  /-- The checker stopped and named what it expected. -/
  | expected (expectations : Expectations)
  /-- The checker accepted even the sentinel. -/
  | accepted
  deriving DecidableEq, Repr

namespace Probe

/-- The text that the checker gets to see. -/
def query (probe : Probe) (before : Text) : Text :=
  before ++ probe.sentinel

/-- Probes the place after a piece of text. -/
def ask (probe : Probe) (before : Text) : Except Fault Finding :=
  match probe.checker (probe.query before) with
  | .expected expectations => .ok (.expected expectations)
  | .accepted => .ok .accepted
  | .failed message => .error (.checkerFailed message)

end Probe

end ClassExpr
