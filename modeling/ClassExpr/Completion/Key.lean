/-
The keys a completer reacts to, on their way down and on their way up.  A
key that the completer consumes must not reach the document.
-/
import ClassExpr.Completion.Completer

namespace ClassExpr

/-- The keys that are told apart. -/
inductive Key where
  | char (c : Char)
  | tab
  | enter
  | escape
  | up
  | down
  | left
  | right
  | backspace
  | delete
  | other
  deriving DecidableEq, Repr

structure Modifiers where
  shift : Bool := false
  ctrl : Bool := false
  alt : Bool := false
  deriving DecidableEq, Repr

/-- Whether a key goes down or up. -/
inductive KeyPhase where
  | press
  | release
  deriving DecidableEq, Repr

structure KeyInput where
  key : Key
  modifiers : Modifiers := {}
  phase : KeyPhase := .press
  deriving DecidableEq, Repr

/-- Control and space together ask for completion. -/
def KeyInput.isShortcut (input : KeyInput) : Bool :=
  input.key == .char ' ' && input.modifiers.ctrl

/-- What a completer makes of a key event. -/
structure Dispatch (σ : Type) where
  consumed : Bool
  reaction : Reaction σ

namespace Completer

variable {σ : Type} [Surface σ]

/-- A key goes down.  Only the completion keys and the keys of an open popup
are consumed; moving the caret sideways closes the popup. -/
def press (completer : Completer σ) (input : KeyInput) : Dispatch σ :=
  if input.isShortcut then ⟨false, completer.trigger⟩
  else
    match input.key, completer.popup.visible with
    | .tab, _ => ⟨true, completer.trigger⟩
    | .escape, true => ⟨true, completer.dismiss⟩
    | .enter, true => ⟨true, completer.accept⟩
    | .down, true => ⟨true, completer.moveSelection 1⟩
    | .up, true => ⟨true, completer.moveSelection (-1)⟩
    | .left, _ | .right, _ => ⟨false, completer.dismiss⟩
    | _, _ => ⟨false, { completer }⟩

/-- A key comes up.  The list follows the document unless the key only moved
the selection. -/
def release (completer : Completer σ) (input : KeyInput) : Dispatch σ :=
  match input.key with
  | .up | .down => ⟨false, { completer }⟩
  | _ => ⟨false, completer.refreshIfStale⟩

/-- Reacts to a key event.  A detached completer lets every key pass. -/
def dispatch (completer : Completer σ) (input : KeyInput) : Dispatch σ :=
  if !completer.attached then ⟨false, { completer }⟩
  else
    match input.phase with
    | .press => completer.press input
    | .release => completer.release input

end Completer

end ClassExpr
