/-
The editor of class expressions: a pane with a completer attached, a status
line and a screen.  Keys go to the completer first, and to the text only if
the completer lets them pass.
-/
import ClassExpr.Entity.Sample
import ClassExpr.Entity.ShortForm
import ClassExpr.Grammar.Recogniser
import ClassExpr.Terminal.Clicks
import ClassExpr.Terminal.Keyboard
import ClassExpr.Terminal.Pane
import ClassExpr.Terminal.PopupView

namespace ClassExpr

inductive Status where
  | blank
  | inserted (word : Text)
  | candidates (count : Nat)
  deriving DecidableEq, Repr

def Status.text : Status → Text
  | .blank => []
  | .inserted word => "Inserted ".toList ++ word
  | .candidates count => Text.ofNat count ++ " candidates".toList

/-- The events that reach the editor. -/
inductive EditorEvent where
  | key (event : KeyEvent)
  /-- A mouse event at a time in milliseconds. -/
  | mouse (event : MouseEvent) (time : Nat)
  | resize (width height : Nat)
  | other

structure Editor where
  completer : Completer Pane
  view : PopupView := {}
  /-- A click that may become a double click. -/
  click : Option Click := none
  /-- The number of the current window. -/
  owner : Nat := 0
  /-- The screen at the last draw or resize. -/
  screen : Rect := {}
  /-- Whether every press is followed by a release, for terminals that
  report none. -/
  synthesizeRelease : Bool := true
  status : Status := .blank
  quit : Bool := false

/-- What a text area makes of a key. -/
abbrev Typing := TextArea → KeyEvent → TextArea

namespace Editor

def new (text : Text) (vocabulary : Vocabulary) (settings : Settings) : Editor :=
  { completer :=
      Completer.attach (Pane.ofText text)
        (NameTable.ofVocabulary Entity.short vocabulary).check
        (CandidateSource.ofVocabulary Entity.short Entity.short vocabulary) settings }

def statusAfter (status : Status) (popup : Popup) : Outcome → Status
  | .nothing => status
  | .inserted word => .inserted word
  | .popupShown | .popupUpdated => .candidates popup.rows.length
  | .popupHidden => .blank

/-- Takes over what the completer did. -/
def note (editor : Editor) (reaction : Reaction Pane) : Editor :=
  { editor with
    completer := reaction.completer
    status := statusAfter editor.status reaction.completer.popup reaction.outcome }

/-- Control with `c` or `q` ends the editor. -/
def isQuit (event : KeyEvent) : Bool :=
  event.stroke != .release && event.modifiers.ctrl &&
    (event.code == .char 'c' || event.code == .char 'q')

def typeKey (typing : Typing) (editor : Editor) (event : KeyEvent) : Editor :=
  { editor with
    completer :=
      { editor.completer with
        document :=
          { editor.completer.document with area := typing editor.completer.document.area event } } }

/-- A key event.  The typing says what a key does to the text. -/
def handleKeyWith (typing : Typing) (editor : Editor) (event : KeyEvent) : Editor :=
  if isQuit event then { editor with quit := true }
  else
    let input := event.toInput
    let dispatch := editor.completer.dispatch input
    let editor := editor.note dispatch.reaction
    match input.phase with
    | .release => editor
    | .press =>
      let editor :=
        if dispatch.consumed || input.isShortcut then editor else typeKey typing editor event
      if editor.synthesizeRelease then
        editor.note (editor.completer.dispatch { input with phase := .release }).reaction
      else editor

/-- A mouse event.  A double click on a row of the popup accepts it. -/
def handleMouse (editor : Editor) (event : MouseEvent) (time : Nat) : Editor :=
  let (click, cell?) := trackClick editor.click event time
  let editor := { editor with click }
  match cell? with
  | none => editor
  | some (x, y) =>
    match editor.view.rowAt? editor.completer.popup editor.screen x y with
    | none => editor
    | some row => editor.note (editor.completer.acceptRow row)

def handleWith (typing : Typing) (editor : Editor) : EditorEvent → Editor
  | .key event => handleKeyWith typing editor event
  | .mouse event time => editor.handleMouse event time
  | .resize width height =>
    { editor with
      screen := Rect.ofSize 0 0 width height
      owner := editor.owner + 1
      completer := editor.completer.moveToWindow (editor.owner + 1) }
  | .other => editor

def handle (editor : Editor) (event : EditorEvent) : Editor :=
  handleWith (fun area event => (area.input event).1) editor event

def shutdown (editor : Editor) : Editor :=
  { editor with completer := editor.completer.detach }

end Editor

end ClassExpr
