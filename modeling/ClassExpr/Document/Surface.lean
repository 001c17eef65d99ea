/-
What a completer needs from an editable document.  All offsets count
characters.  An edit may be refused, and a refused edit reports its fault
beside the document it leaves.
-/
import ClassExpr.Completion.Fault

namespace ClassExpr

/-- A place on the screen. -/
structure Anchor where
  x : Int
  y : Int
  deriving DecidableEq, Repr

/-- The place some units further down. -/
def Anchor.below (anchor : Anchor) (dy : Int) : Anchor :=
  ⟨anchor.x, anchor.y + dy⟩

/-- What an edit leaves: the document after it, and the fault if it was
refused. -/
structure Edited (σ : Type) where
  document : σ
  fault? : Option Fault := none

namespace Edited

variable {σ : Type}

def refused (document : σ) (fault : Fault) : Edited σ :=
  ⟨document, some fault⟩

/-- Goes on with another edit unless one was refused. -/
def andThen (edited : Edited σ) (next : σ → Edited σ) : Edited σ :=
  match edited.fault? with
  | some _ => edited
  | none => next edited.document

@[simp] theorem andThen_done (document : σ) (next : σ → Edited σ) :
    (Edited.mk document none).andThen next = next document := rfl

@[simp] theorem andThen_refused (document : σ) (fault : Fault) (next : σ → Edited σ) :
    (refused document fault).andThen next = refused document fault := rfl

end Edited

/-- The characters of a text from `start` on, `length` of them. -/
def Text.span (text : Text) (start length : Nat) : Except Fault Text :=
  if text.length < start + length then .error (.outOfRange start length)
  else .ok ((text.drop start).take length)

/-- The operations of an editable document. -/
class Surface (σ : Type) where
  /-- The whole text. -/
  text : σ → Text
  /-- The offset of the caret. -/
  caret : σ → Nat
  /-- A piece of the text. -/
  span : σ → Nat → Nat → Except Fault Text := fun document => Text.span (text document)
  /-- Moves the caret. -/
  setCaret : σ → Nat → Edited σ
  /-- Deletes characters from an offset on. -/
  remove : σ → Nat → Nat → Edited σ
  /-- Inserts a text at an offset and leaves the caret behind it. -/
  insert : σ → Nat → Text → Edited σ
  /-- The place on the screen of the character at an offset. -/
  anchor? : σ → Nat → Option Anchor
  /-- The height of a line on the screen. -/
  lineHeight : σ → Int

end ClassExpr
