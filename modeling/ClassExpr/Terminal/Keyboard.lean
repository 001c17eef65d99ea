/-
Key events of a terminal, as seen by a completer and by a text area.
-/
import ClassExpr.Completion.Key
import ClassExpr.Terminal.TextArea

namespace ClassExpr

inductive KeyCode where
  | char (c : Char)
  | tab
  | backTab
  | enter
  | escape
  | up
  | down
  | left
  | right
  | backspace
  | delete
  | home
  | endKey
  | insert
  | pageUp
  | pageDown
  | null
  | capsLock
  | menu
  | function (number : Nat)
  deriving DecidableEq, Repr

/-- A key goes down, stays down or comes up. -/
inductive Stroke where
  | press
  | again
  | release
  deriving DecidableEq, Repr

structure KeyEvent where
  code : KeyCode
  modifiers : Modifiers := {}
  stroke : Stroke := .press
  deriving DecidableEq, Repr

def KeyCode.toKey : KeyCode → Key
  | .char c => .char c
  | .tab => .tab
  | .enter => .enter
  | .escape => .escape
  | .up => .up
  | .down => .down
  | .left => .left
  | .right => .right
  | .backspace => .backspace
  | .delete => .delete
  | .null => .char ' '
  | _ => .other

/-- The event that a completer sees.  Some terminals send control and space
as the null key. -/
def KeyEvent.toInput (event : KeyEvent) : KeyInput :=
  { key := event.code.toKey
    modifiers :=
      if event.code = .null then { event.modifiers with ctrl := true } else event.modifiers
    phase := if event.stroke = .release then .release else .press }

/-- What a key does to a text area. -/
inductive AreaAction where
  | breakLine
  | insertChar (c : Char)
  | insertTab
  | deleteBack
  | deleteNext
  | deleteToTail
  | deleteToHead
  | deleteWord
  | deleteNextWord
  | move (move : CursorMove) (extend : Bool)
  | turnPage (down extend : Bool)
  | undo
  | redo
  | cut
  | copy
  | paste
  deriving DecidableEq, Repr

def controlAction? (c : Char) (shift : Bool) : Option AreaAction :=
  match c with
  | 'm' => some .breakLine
  | 'h' => some .deleteBack
  | 'd' => some .deleteNext
  | 'k' => some .deleteToTail
  | 'j' => some .deleteToHead
  | 'w' => some .deleteWord
  | 'n' => some (.move .down shift)
  | 'p' => some (.move .up shift)
  | 'f' => some (.move .forward shift)
  | 'b' => some (.move .back shift)
  | 'a' => some (.move .head shift)
  | 'e' => some (.move .tail shift)
  | 'u' => some .undo
  | 'r' => some .redo
  | 'x' => some .cut
  | 'c' => some .copy
  | 'y' => some .paste
  | 'v' => some (.turnPage true shift)
  | _ => none

def altAction? (c : Char) (shift : Bool) : Option AreaAction :=
  match c with
  | 'h' => some .deleteWord
  | 'd' => some .deleteNextWord
  | '<' => some (.move .top shift)
  | '>' => some (.move .bottom shift)
  | 'f' => some (.move .wordForward shift)
  | 'b' => some (.move .wordBack shift)
  | ']' | 'n' => some (.move .paragraphForward shift)
  | '[' | 'p' => some (.move .paragraphBack shift)
  | 'v' => some (.turnPage false shift)
  | _ => none

def controlAltAction? (c : Char) (shift : Bool) : Option AreaAction :=
  match c with
  | 'b' => some (.move .head shift)
  | 'f' => some (.move .tail shift)
  | 'p' => some (.move .top shift)
  | 'n' => some (.move .bottom shift)
  | _ => none

/-- The way an arrow key moves the cursor: by one step, with control by a word
or a paragraph, and with control and alt to an end. -/
def arrowMove? (code : KeyCode) (ctrl alt : Bool) : Option CursorMove :=
  match code, ctrl, alt with
  | .up, false, false => some .up
  | .down, false, false => some .down
  | .left, false, false => some .back
  | .right, false, false => some .forward
  | .up, true, false => some .paragraphBack
  | .down, true, false => some .paragraphForward
  | .left, true, false => some .wordBack
  | .right, true, false => some .wordForward
  | .up, true, true => some .top
  | .down, true, true => some .bottom
  | .left, true, true => some .head
  | .right, true, true => some .tail
  | _, _, _ => none

/-- The action of a key.  Enter, the keys for the ends of a line and those for
pages work with all modifiers, and characters have actions of their own with
control and with alt. -/
def KeyEvent.areaAction? (event : KeyEvent) : Option AreaAction :=
  let shift := event.modifiers.shift
  if event.stroke = .release then none
  else
    match event.code, event.modifiers.ctrl, event.modifiers.alt with
    | .enter, _, _ => some .breakLine
    | .home, _, _ => some (.move .head shift)
    | .endKey, _, _ => some (.move .tail shift)
    | .pageDown, _, _ => some (.turnPage true shift)
    | .pageUp, _, _ => some (.turnPage false shift)
    | .char c, false, false =>
      if c = '\n' ∨ c = '\r' then some .breakLine else some (.insertChar c)
    | .char c, true, false => controlAction? c shift
    | .char c, false, true => altAction? c shift
    | .char c, true, true => controlAltAction? c shift
    | .tab, false, false => some .insertTab
    | .backspace, false, false => some .deleteBack
    | .backspace, false, true => some .deleteWord
    | .delete, false, false => some .deleteNext
    | .delete, false, true => some .deleteNextWord
    | code, ctrl, alt => (arrowMove? code ctrl alt).map fun move => .move move shift

/-- Carries out an action and tells whether the text was edited. -/
def TextArea.act (area : TextArea) : AreaAction → TextArea × Bool
  | .breakLine => (area.insertBreak, true)
  | .insertChar c => (area.insertChar c, true)
  | .insertTab => (area.insertTab, true)
  | .deleteBack => area.deleteBack
  | .deleteNext => area.deleteNext
  | .deleteToTail => area.deleteToTail
  | .deleteToHead => area.deleteToHead
  | .deleteWord => area.deleteWord
  | .deleteNextWord => area.deleteNextWord
  | .move move extend => (area.moveWith move extend, false)
  | .turnPage down extend => (area.turnPage down extend, false)
  | .undo => area.undo
  | .redo => area.redo
  | .cut => area.cut
  | .copy => (area.copy, false)
  | .paste => area.paste

/-- Gives a key event to a text area.  Keys without an action do nothing. -/
def TextArea.input (area : TextArea) (event : KeyEvent) : TextArea × Bool :=
  match event.areaAction? with
  | some action => area.act action
  | none => (area, false)

end ClassExpr
