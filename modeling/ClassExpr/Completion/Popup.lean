/-
The popup list: whether it is shown and where, the rows in it and the row
that is selected.  The popup only holds data; drawing it is done elsewhere.
-/
import ClassExpr.Completion.Candidate
import ClassExpr.Document.Surface

namespace ClassExpr

/-- The list of an open popup. -/
structure PopupSession where
  /-- The document at the time the rows were computed. -/
  probed : Option Text := none
  rows : List Candidate := []
  index : Nat := 0
  deriving DecidableEq, Repr

namespace PopupSession

/-- Whether a document differs from the one the rows were computed for. -/
def isStale (session : PopupSession) (text : Text) : Bool :=
  session.probed != some text

def selected? (session : PopupSession) : Option Candidate :=
  session.rows[session.index]?

/-- Selects the next row, and the first one after the last. -/
def selectNext (session : PopupSession) : PopupSession :=
  if session.rows.isEmpty then session
  else { session with index := (session.index + 1) % session.rows.length }

/-- Selects the previous row, and the last one before the first. -/
def selectPrevious (session : PopupSession) : PopupSession :=
  if session.rows.isEmpty then session
  else
    { session with
      index := if session.index = 0 then session.rows.length - 1 else session.index - 1 }

end PopupSession

/-- The size of a popup in logical units. -/
structure PopupSize where
  width : Nat := 350
  height : Nat := 300
  deriving DecidableEq, Repr

/-- A popup with at most `maxEntries` rows, bound to the window `owner`. -/
structure Popup where
  visible : Bool := false
  anchor : Option Anchor := none
  size : PopupSize := {}
  maxEntries : Nat := 100
  owner : Option Nat := none
  session : Option PopupSession := none
  deriving DecidableEq, Repr

namespace Popup

/-- A hidden popup.  It has room for one row at least. -/
def hidden (size : PopupSize) (maxEntries : Nat) : Popup :=
  { size, maxEntries := max maxEntries 1 }

def rows (popup : Popup) : List Candidate :=
  (popup.session.map PopupSession.rows).getD []

/-- The index of the selected row, if there are rows. -/
def selectedIndex? (popup : Popup) : Option Nat :=
  (popup.session.filter fun session => !session.rows.isEmpty).map PopupSession.index

def selected? (popup : Popup) : Option Candidate :=
  popup.session.bind PopupSession.selected?

/-- Opens the popup with an empty list.  An open popup stays as it is. -/
def openAt (popup : Popup) (anchor : Anchor) (probed : Text) : Popup :=
  if popup.visible then popup
  else
    { popup with
      visible := true
      anchor := some anchor
      session := some { probed := some probed } }

/-- Fills the list with the first candidates and selects the first row. -/
def populate (popup : Popup) (candidates : List Candidate) : Popup :=
  let session := popup.session.getD {}
  { popup with
    session := some { session with rows := candidates.take popup.maxEntries, index := 0 } }

/-- Notes the document that the rows are computed for. -/
def noteProbe (popup : Popup) (text : Text) : Popup :=
  { popup with session := popup.session.map fun session => { session with probed := some text } }

/-- Closes the popup and drops its list. -/
def hide (popup : Popup) : Popup :=
  { popup with visible := false, anchor := none, session := none }

def selectNext (popup : Popup) : Popup :=
  { popup with session := popup.session.map PopupSession.selectNext }

def selectPrevious (popup : Popup) : Popup :=
  { popup with session := popup.session.map PopupSession.selectPrevious }

def select? (popup : Popup) (row : Nat) : Option Popup :=
  match popup.session with
  | some session =>
    if row < session.rows.length then
      some { popup with session := some { session with index := row } }
    else none
  | none => none

/-- A fresh hidden popup for another window. -/
def rebind (popup : Popup) (owner : Nat) : Popup :=
  { hidden popup.size popup.maxEntries with owner := some owner }

end Popup

end ClassExpr
