/-
Double clicks: two presses of the left button on one cell in quick
succession.  A press that completed a double click does not begin another.
-/

namespace ClassExpr

inductive MouseAction where
  | downLeft
  | downRight
  | downMiddle
  | upLeft
  | upRight
  | upMiddle
  | dragLeft
  | dragRight
  | dragMiddle
  | moved
  | scrollUp
  | scrollDown
  | scrollLeft
  | scrollRight
  deriving DecidableEq, Repr

structure MouseEvent where
  action : MouseAction
  x : Nat
  y : Nat
  deriving DecidableEq, Repr

/-- A press of the left button that may begin a double click. -/
structure Click where
  x : Nat
  y : Nat
  time : Nat
  deriving DecidableEq, Repr

/-- The longest time in milliseconds between the presses of a double
click. -/
def doubleClickTime : Nat := 400

/-- Whether a press completes a double click, if its presses may be `limit`
apart.  Time that goes backwards counts as no time. -/
def Click.pairsWith (limit : Nat) (click : Click) (x y time : Nat) : Bool :=
  click.x == x && click.y == y && time - click.time ≤ limit

/-- Takes the press that is waiting for its partner and a new event, with the
longest time between the presses of a double click.  Gives the press that waits
from now on, and the cell of a double click. -/
def trackClickWithin (limit : Nat) (waiting : Option Click) (event : MouseEvent) (time : Nat) :
    Option Click × Option (Nat × Nat) :=
  if event.action ≠ .downLeft then (waiting, none)
  else
    match waiting with
    | some click =>
      if click.pairsWith limit event.x event.y time then (none, some (event.x, event.y))
      else (some ⟨event.x, event.y, time⟩, none)
    | none => (some ⟨event.x, event.y, time⟩, none)

/-- Tracks clicks at times in milliseconds. -/
def trackClick (waiting : Option Click) (event : MouseEvent) (time : Nat) :
    Option Click × Option (Nat × Nat) :=
  trackClickWithin doubleClickTime waiting event time

end ClassExpr
