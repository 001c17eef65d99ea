/-
One completer at two documents.

A completer learns from its document only the text, the caret and whether an
offset has a place on the screen.  At two documents that agree in these it does
the same, up to the place of its popup, as long as the words it puts in leave
documents that agree again.
-/
import ClassExpr.Proofs.Choice
import ClassExpr.Proofs.DocumentEffect

namespace ClassExpr

variable {σ τ : Type}

/-- Two edits with the same answer that leave related documents. -/
structure Edited.Mirrors (related : σ → τ → Prop) (left : Edited σ) (right : Edited τ) :
    Prop where
  document : related left.document right.document
  fault? : right.fault? = left.fault?

namespace Completer

/-- The completer at another document, with its popup at another place. -/
def onto (completer : Completer σ) (document : τ) (anchor : Option Anchor) : Completer τ :=
  { document
    delimiters := completer.delimiters
    probe := completer.probe
    source := completer.source
    popup := { completer.popup with anchor }
    dismissWhenEmpty := completer.dismissWhenEmpty
    attached := completer.attached }

section

variable (completer : Completer σ) (document : τ) (anchor : Option Anchor)

end

/-- Two completers that differ only in their documents, which are related, and
in the place of the popup. -/
def Mirrors (related : σ → τ → Prop) (left : Completer σ) (right : Completer τ) : Prop :=
  ∃ document anchor, related left.document document ∧ right = left.onto document anchor

end Completer

/-- Two reactions with the same answer that leave such completers. -/
structure Reaction.Mirrors (related : σ → τ → Prop) (left : Reaction σ) (right : Reaction τ) :
    Prop where
  completer : Completer.Mirrors related left.completer right.completer
  outcome : right.outcome = left.outcome
  checked : right.checked = left.checked

namespace Completer

section

variable {related : σ → τ → Prop} {completer : Completer σ} {document : τ}

end

end Completer

variable [Surface σ] [Surface τ]

/-- Two documents in which a completer finds the same. -/
structure Surface.Agree (left : σ) (right : τ) : Prop where
  text : Surface.text right = Surface.text left
  caret : Surface.caret right = Surface.caret left
  span : Surface.span right = Surface.span left
  anchor : ∀ offset ≤ (Surface.text left).length,
    (Surface.anchor? right offset).isSome = (Surface.anchor? left offset).isSome

namespace Completer

variable {related : σ → τ → Prop} {completer : Completer σ} {document : τ}

section

variable (hagree : Surface.Agree completer.document document) (anchor : Option Anchor)
include hagree

end

section

variable (hagree : Surface.Agree completer.document document)
  (hrelated : related completer.document document) (anchor : Option Anchor)
include hagree hrelated

end

end Completer
end ClassExpr
