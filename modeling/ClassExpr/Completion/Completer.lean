/-
A completer attached to a document.  It finds the partial word at the caret,
asks the grammar what may stand there, offers the candidates in a popup and
puts the accepted one in place of the word.

A fault inside an operation ends it without an effect on the outcome, so a
host never has to handle one.  Beside its outcome every operation tells which
texts it had checked.
-/
import ClassExpr.Completion.Popup
import ClassExpr.Completion.Settings

namespace ClassExpr

/-- The visible effect of an operation. -/
inductive Outcome where
  /-- The partial word was replaced. -/
  | inserted (word : Text)
  /-- The popup opened. -/
  | popupShown
  /-- The list of the open popup changed. -/
  | popupUpdated
  /-- The popup closed and the document stayed. -/
  | popupHidden
  /-- Nothing happened. -/
  | nothing
  deriving DecidableEq, Repr

/-- A completer over a document of type `σ`. -/
structure Completer (σ : Type) where
  document : σ
  delimiters : Delimiters
  probe : Probe
  source : CandidateSource
  popup : Popup
  dismissWhenEmpty : Bool
  attached : Bool := true

/-- The candidates at the caret and the texts that were checked to find
them. -/
structure Lookup where
  candidates : List Candidate := []
  checked : List Text := []
  deriving DecidableEq, Repr

/-- What an operation leaves. -/
structure Reaction (σ : Type) where
  completer : Completer σ
  outcome : Outcome := .nothing
  checked : List Text := []

namespace Completer

variable {σ : Type} [Surface σ]

def attach (document : σ) (checker : Checker) (source : CandidateSource)
    (settings : Settings) : Completer σ :=
  { document
    delimiters := settings.delimiters
    probe := ⟨checker, settings.sentinel⟩
    source
    popup := Popup.hidden ⟨settings.popupWidth, settings.popupHeight⟩ settings.maxEntries
    dismissWhenEmpty := settings.dismissWhenEmpty }

/-- The partial word at the caret of the document as it is now. -/
def partialWord (completer : Completer σ) : Except Fault (Option PartialWord) :=
  completer.delimiters.locate (Surface.text completer.document)
    (Surface.caret completer.document)

def candidatesAfter (completer : Completer σ) (before word : Text) : Lookup :=
  let checked := [completer.probe.query before]
  match completer.probe.ask before with
  | .ok (.expected expectations) =>
    { candidates := completer.source.gather word expectations, checked }
  | _ => { checked }

/-- The candidates for the partial word at the caret.  There are none without
a word, without access to the document or without expectations. -/
def lookup (completer : Completer σ) : Lookup :=
  match completer.partialWord with
  | .ok (some word) =>
    match Surface.span completer.document 0 word.start with
    | .ok before => completer.candidatesAfter before word.text
    | .error _ => {}
  | _ => {}

/-- Deletes a word, inserts another text in its place and puts the caret
behind it. -/
def replaceWord (document : σ) (word : PartialWord) (text : Text) : Edited σ :=
  ((Surface.remove document word.start word.length).andThen fun document =>
    Surface.insert document word.start text).andThen fun document =>
      Surface.setCaret document (word.start + text.length)

/-- Replaces the partial word at the caret.  Where there is none the caret is
out of range. -/
def insertWord (completer : Completer σ) (text : Text) : Completer σ × Option Fault :=
  match completer.partialWord with
  | .error fault => (completer, some fault)
  | .ok none => (completer, some (.outOfRange (Surface.caret completer.document) 0))
  | .ok (some word) =>
    let edited := replaceWord completer.document word text
    ({ completer with document := edited.document }, edited.fault?)

/-- Replaces the partial word and closes the popup, whether or not the
document could be edited. -/
def complete (completer : Completer σ) (text : Text) (checked : List Text) : Reaction σ :=
  let (edited, fault?) := completer.insertWord text
  { completer := { edited with popup := edited.popup.hide }
    outcome := if fault?.isNone then .inserted text else .nothing
    checked }

/-- One line below the start of the partial word. -/
def popupAnchor? (completer : Completer σ) : Option Anchor :=
  match completer.partialWord with
  | .ok (some word) =>
    (Surface.anchor? completer.document word.start).map fun anchor =>
      anchor.below (Surface.lineHeight completer.document)
  | _ => none

/-- Fills the open popup, or opens it if there is a place for it. -/
def offer (completer : Completer σ) (found : Lookup) : Reaction σ :=
  let text := Surface.text completer.document
  if completer.popup.visible then
    { completer :=
        { completer with popup := (completer.popup.noteProbe text).populate found.candidates }
      outcome := .popupUpdated
      checked := found.checked }
  else
    match completer.popupAnchor? with
    | none => { completer, checked := found.checked }
    | some anchor =>
      { completer :=
          { completer with
            popup := (completer.popup.openAt anchor text).populate found.candidates }
        outcome := .popupShown
        checked := found.checked }

/-- Completes the word at the caret.  A single candidate is inserted at once;
several are offered in the popup. -/
def trigger (completer : Completer σ) : Reaction σ :=
  if !completer.attached then { completer }
  else
    let found := completer.lookup
    match found.candidates with
    | [] => { completer, checked := found.checked }
    | [only] => completer.complete only.insertion found.checked
    | _ => completer.offer found

/-- Computes the list of the open popup again. -/
def refresh (completer : Completer σ) : Reaction σ :=
  if !completer.attached || !completer.popup.visible then { completer }
  else
    let found := completer.lookup
    let popup := completer.popup.noteProbe (Surface.text completer.document)
    if found.candidates.isEmpty && completer.dismissWhenEmpty then
      { completer := { completer with popup := popup.hide }
        outcome := .popupHidden
        checked := found.checked }
    else
      { completer := { completer with popup := popup.populate found.candidates }
        outcome := .popupUpdated
        checked := found.checked }

/-- Whether the list was computed for another document. -/
def isStale (completer : Completer σ) : Bool :=
  match completer.popup.session with
  | some session => session.isStale (Surface.text completer.document)
  | none => false

/-- Computes the list again if the document has changed since. -/
def refreshIfStale (completer : Completer σ) : Reaction σ :=
  if completer.popup.visible && completer.isStale then completer.refresh else { completer }

/-- Puts the selected row in place of the partial word and closes the
popup. -/
def accept (completer : Completer σ) : Reaction σ :=
  if !completer.attached || !completer.popup.visible then { completer }
  else
    match completer.popup.selected? with
    | none => { completer }
    | some candidate => completer.complete candidate.insertion []

def dismiss (completer : Completer σ) : Reaction σ :=
  if completer.popup.visible then
    { completer := { completer with popup := completer.popup.hide }, outcome := .popupHidden }
  else { completer }

/-- Moves the selection by some rows, going round at either end. -/
def moveSelection (completer : Completer σ) (delta : Int) : Reaction σ :=
  if !completer.attached || !completer.popup.visible || delta == 0 then { completer }
  else
    let step := if 0 < delta then Popup.selectNext else Popup.selectPrevious
    { completer := { completer with popup := Nat.repeat step delta.natAbs completer.popup }
      outcome := .popupUpdated }

def acceptRow (completer : Completer σ) (row : Nat) : Reaction σ :=
  if completer.attached && completer.popup.visible then
    match completer.popup.select? row with
    | some popup => accept { completer with popup }
    | none => { completer }
  else { completer }

/-- Moves to another window, for which the popup is made anew. -/
def moveToWindow (completer : Completer σ) (owner : Nat) : Completer σ :=
  { completer with popup := completer.popup.rebind owner }

/-- Detaches the completer from its document for good. -/
def detach (completer : Completer σ) : Completer σ :=
  if completer.attached then
    { completer with attached := false, popup := completer.popup.hide }
  else completer

end Completer

end ClassExpr
