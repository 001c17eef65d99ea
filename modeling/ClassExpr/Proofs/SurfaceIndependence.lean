/-
A completer in a pane and one at a buffer.

A buffer keeps a flat text and a caret, a pane keeps lines and a cursor, and
they differ in where a deletion leaves the caret.  A completer always goes on
to insert and to set the caret, so the two documents agree again, and a host
that makes the same calls sees the same answers.
-/
import ClassExpr.Proofs.ExactReplacement
import ClassExpr.Proofs.Mirror
import ClassExpr.Proofs.SurfaceAgreement

namespace ClassExpr

/-- The word that an outcome reports as put in. -/
def Outcome.word? : Outcome → Option Text
  | .inserted word => some word
  | _ => none

namespace Completer

/-- What a host does with a completer and its document. -/
inductive Call where
  | perform (operation : Operation)
  | insertWord (word : Text)
  | setCaret (offset : Nat)
  | insert (offset : Nat) (word : Text)
  | moveToWindow (owner : Nat)
  | detach
  /-- The checker or the source come to answer differently. -/
  | change (checker : Checker) (source : CandidateSource)
  | draw (inner : Rect)

/-- The texts that a host puts in are typable. -/
def Call.Typable : Call → Prop
  | .insertWord word | .insert _ word => word.Typable
  | _ => True

instance : (request : Call) → Decidable request.Typable
  | .insertWord word | .insert _ word => inferInstanceAs (Decidable word.Typable)
  | .perform _ | .setCaret _ | .moveToWindow _ | .detach | .change _ _ | .draw _ => .isTrue trivial

/-- What a host is answered. -/
structure Reply where
  outcome : Outcome := .nothing
  /-- Whether a key was kept from the document. -/
  consumed : Bool := false
  fault? : Option Fault := none
  checked : List Text := []
  deriving DecidableEq

/-- What a host sees of a completer: all but the place of the popup. -/
structure View where
  text : Text
  caret : Nat
  word : Except Fault (Option PartialWord)
  found : Lookup
  popup : Popup
  attached : Bool

/-- The text that is seen is in reach of a cursor, and what was put in is
typable. -/
structure Regular (reply : Reply) (view : View) : Prop where
  fits : Lines.Fits (Text.lines view.text)
  typable : ∀ word ∈ reply.outcome.word?, word.Typable

instance (reply : Reply) (view : View) : Decidable (Regular reply view) :=
  decidable_of_iff
    (Lines.Fits (Text.lines view.text) ∧ ∀ word ∈ reply.outcome.word?, word.Typable)
    ⟨fun h => ⟨h.1, h.2⟩, fun h => ⟨h.fits, h.typable⟩⟩

section

variable {σ : Type} [Surface σ]

def view (completer : Completer σ) : View where
  text := Surface.text completer.document
  caret := Surface.caret completer.document
  word := completer.partialWord
  found := completer.lookup
  popup := { completer.popup with anchor := none }
  attached := completer.attached

/-- Whether an operation is a key that must not reach the document. -/
def consumes (completer : Completer σ) : Operation → Bool
  | .key input => (completer.dispatch input).consumed
  | _ => false

def call (draw : Rect → σ → σ) (completer : Completer σ) : Call → Completer σ × Reply
  | .perform operation =>
    let reaction := completer.perform operation
    (reaction.completer,
      { outcome := reaction.outcome
        consumed := completer.consumes operation
        checked := reaction.checked })
  | .insertWord word =>
    let (edited, fault?) := completer.insertWord word
    (edited, { fault? })
  | .setCaret offset =>
    let edited := Surface.setCaret completer.document offset
    ({ completer with document := edited.document }, { fault? := edited.fault? })
  | .insert offset word =>
    let edited := Surface.insert completer.document offset word
    ({ completer with document := edited.document }, { fault? := edited.fault? })
  | .moveToWindow owner => (completer.moveToWindow owner, {})
  | .detach => (completer.detach, {})
  | .change checker source =>
    ({ completer with source, probe := { completer.probe with checker } }, {})
  | .draw inner => ({ completer with document := draw inner completer.document }, {})

end

end Completer

/-- A pane that shows the text and the caret of a buffer. -/
structure Buffer.ShownBy (buffer : Buffer) (pane : Pane) : Prop where
  text : pane.area.text = buffer.text
  caret : pane.area.caret = buffer.caret
  origin : buffer.origin.isSome = true
  drawn : pane.viewport.isSome = true
  wellFormed : pane.area.WellFormed
  selection : pane.area.selection = none
  fits : pane.area.lines.Fits

namespace Buffer.ShownBy

variable {buffer : Buffer} {pane : Pane}

theorem shows (hshown : buffer.ShownBy pane) : pane.area.Shows buffer.text where
  text := hshown.text
  wellFormed := hshown.wellFormed
  selection := hshown.selection

theorem fits_text (hshown : buffer.ShownBy pane) : Lines.Fits (Text.lines buffer.text) := by
  rw [← hshown.shows.lines]
  exact hshown.fits

/-- Edits change the text and the caret and nothing else. -/
theorem edited (hshown : buffer.ShownBy pane) {area : TextArea} {text : Text} {caret : Nat}
    (hshows : area.Shows text) (hcaret : area.caret = caret)
    (hfits : Lines.Fits (Text.lines text)) :
    ShownBy { buffer with text, caret } { pane with area } :=
  { hshown with
    text := hshows.text
    caret := hcaret
    wellFormed := hshows.wellFormed
    selection := hshows.selection
    fits := by rwa [hshows.lines] }

theorem agree (hshown : buffer.ShownBy pane) : Surface.Agree buffer pane where
  text := hshown.text
  caret := pane.caret_eq.trans hshown.caret
  span := congrArg Text.span hshown.text
  anchor := by
    intro offset (hoffset : offset ≤ buffer.text.length)
    obtain ⟨position, hholds, hplace, _⟩ := hshown.shows.exists_holds hshown.fits_text hoffset
    obtain ⟨origin, horigin⟩ := Option.isSome_iff_exists.1 hshown.origin
    obtain ⟨viewport, hviewport⟩ := Option.isSome_iff_exists.1 hshown.drawn
    have hinside : ¬ (buffer.text.take offset).length < offset := by
      rw [List.length_take_of_le hoffset]
      exact Nat.lt_irrefl offset
    have hleft : (buffer.anchor? offset).isSome = true := by
      simp only [Buffer.anchor?, horigin, if_neg hinside, Option.isSome_some]
    have hright : (pane.anchor? offset).isSome = true := by
      simp only [Pane.anchor?, hviewport, TextArea.position?_eq_some_iff.2 ⟨hholds, hplace⟩,
        Option.isSome_some]
    exact hright.trans hleft.symm

theorem setCaret (hshown : buffer.ShownBy pane) (offset : Nat) :
    Edited.Mirrors ShownBy (buffer.setCaret offset) (pane.setCaret offset) := by
  by_cases hoffset : offset ≤ buffer.text.length
  · obtain ⟨area, hset, hshows, hcaret⟩ :=
      Pane.exists_setCaret_of_shows hshown.shows hshown.fits_text hoffset
    rw [buffer.setCaret_eq hoffset, hset]
    exact ⟨hshown.edited hshows hcaret hshown.fits_text, rfl⟩
  · have hbehind := Nat.lt_of_not_le hoffset
    rw [buffer.setCaret_of_lt hbehind, Pane.setCaret_of_shows_of_lt hshown.shows hbehind]
    exact ⟨hshown, rfl⟩

theorem insert (hshown : buffer.ShownBy pane) {offset : Nat} {word : Text}
    (hword : word.Typable)
    (hfits : Lines.Fits (Text.lines (buffer.insert offset word).document.text)) :
    Edited.Mirrors ShownBy (buffer.insert offset word) (pane.insert offset word) := by
  by_cases hoffset : offset ≤ buffer.text.length
  · obtain ⟨area, hinsert, hshows, hcaret⟩ :=
      Pane.exists_insert_of_shows hshown.shows hshown.fits_text hoffset hword
    rw [buffer.insert_eq hoffset] at hfits ⊢
    rw [hinsert]
    exact ⟨hshown.edited hshows hcaret hfits, rfl⟩
  · have hbehind := Nat.lt_of_not_le hoffset
    rw [buffer.insert_of_lt hbehind, Pane.insert_of_shows_of_lt hshown.shows hbehind]
    exact ⟨hshown, rfl⟩

/-- The deletions leave the carets in different places, but the whole
replacement does not. -/
theorem replaceWord (hshown : buffer.ShownBy pane) {found : PartialWord}
    (hstart : found.start ≤ found.caret) (hcaret : found.caret = buffer.caret) {word : Text}
    (hword : word.Typable)
    (hfits : Lines.Fits (Text.lines (found.replaceIn buffer.text word))) :
    Edited.Mirrors ShownBy (Completer.replaceWord buffer found word)
      (Completer.replaceWord pane found word) := by
  have hplace : found.caret = pane.area.caret := hcaret.trans hshown.caret.symm
  have hinside : found.caret ≤ pane.area.text.length := by
    rw [hplace]
    exact hshown.wellFormed.cursor.offset_le
  have hmark : pane.area.mark = found.caret :=
    (TextArea.mark_of_selection_eq_none hshown.selection).trans hplace.symm
  have hafter : Lines.Fits (Text.lines (found.replaceIn pane.area.text word)) := by
    rwa [hshown.text]
  obtain ⟨area, hwell, hnone, htext, hend, hresult⟩ := Completer.exists_replaceWord_eq
    hshown.wellFormed hshown.fits hstart hinside (Or.inr hmark) hword hafter
  rw [hshown.text] at htext hinside
  rw [hresult, Completer.replaceWord_eq buffer hstart hinside]
  exact ⟨hshown.edited ⟨htext, hwell, hnone⟩ hend hfits, rfl⟩

theorem ofText {text : Text} (hfits : Lines.Fits (Text.lines text)) (origin : Anchor)
    (lineHeight : Int) (inner : Rect) :
    ShownBy { Buffer.ofText text with origin := some origin, lineHeight }
      ((Pane.ofText text).noteDrawn inner) where
  text := TextArea.text_ofText text
  caret := TextArea.caret_ofText text
  origin := rfl
  drawn := rfl
  wellFormed := TextArea.wellFormed_ofText text
  selection := TextArea.selection_ofText text
  fits := hfits

end Buffer.ShownBy

namespace Completer

variable {completer : Completer Buffer} {pane : Pane}

end Completer

end ClassExpr
