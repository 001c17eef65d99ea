/-
The settings of a completer and the checks they have to pass.
-/
import ClassExpr.Completion.Probe
import ClassExpr.Completion.Word

namespace ClassExpr

structure Settings where
  /-- The most rows that the popup shows. -/
  maxEntries : Nat := 100
  /-- The width of the popup in logical units. -/
  popupWidth : Nat := 350
  /-- The height of the popup in logical units. -/
  popupHeight : Nat := 300
  /-- The text that provokes an answer of the checker. -/
  sentinel : Text := defaultSentinel
  /-- Word delimiters beside the standard ones. -/
  extraDelimiters : List Char := []
  /-- Whether the popup closes when no candidate is left. -/
  dismissWhenEmpty : Bool := true
  deriving DecidableEq, Repr

namespace Settings

def delimiters (settings : Settings) : Delimiters :=
  Delimiters.standard.insertMany settings.extraDelimiters

/-- Refuses settings without rows, without popup area or without a
sentinel, in this order. -/
def validate (settings : Settings) : Except Fault Settings :=
  if settings.maxEntries = 0 then
    .error (.badSettings "max_entries must be at least 1".toList)
  else if settings.popupWidth = 0 ∨ settings.popupHeight = 0 then
    .error (.badSettings "Popup dimensions must be positive".toList)
  else if settings.sentinel = [] then
    .error (.badSettings "Probe sentinel cannot be empty".toList)
  else .ok settings

end Settings

end ClassExpr
