/-
A buffer and a pane under the same edits.

A buffer keeps a flat text and a pane keeps lines, and they check the range of
an edit in different ways.  While the text is in reach of the cursor and what is
put in is typable, they answer every call alike and have the same text after it.
Their carets differ only after a deletion: a pane leaves its caret there, and a
buffer leaves it where it was in the text.
-/
import Mathlib.Data.List.Forall2
import ClassExpr.Proofs.BufferEdits
import ClassExpr.Proofs.PaneEdits

namespace ClassExpr

/-- A text area that holds a text with nothing selected. -/
structure TextArea.Shows (area : TextArea) (text : Text) : Prop where
  text : area.text = text
  wellFormed : area.WellFormed
  selection : area.selection = none

namespace TextArea.Shows

variable {area : TextArea} {text : Text}

theorem ofText (text : Text) : (TextArea.ofText text).Shows text where
  text := text_ofText text
  wellFormed := wellFormed_ofText text
  selection := selection_ofText text

theorem lines (hshows : area.Shows text) : area.lines = Text.lines text := by
  rw [← hshows.text, hshows.wellFormed.lines_text]

theorem mark (hshows : area.Shows text) : area.mark = area.caret :=
  mark_of_selection_eq_none hshows.selection

theorem movedTo (hshows : area.Shows text) {position : Position}
    (hholds : area.lines.Holds position) : (area.movedTo position).Shows text where
  text := hshows.text
  wellFormed := hshows.wellFormed.movedTo hholds
  selection := hshows.selection

/-- In a text that is in reach of the cursor every offset has a position that
can be named to it. -/
theorem exists_holds (hshows : area.Shows text) (hfits : Lines.Fits (Text.lines text))
    {offset : Nat} (hoffset : offset ≤ text.length) :
    ∃ position, area.lines.Holds position ∧ area.lines.offset position = offset ∧
      position.row ≤ maxCell ∧ position.col ≤ maxCell := by
  rw [← hshows.text] at hoffset
  rw [← hshows.lines] at hfits
  obtain ⟨position, hholds, hplace⟩ :=
    Lines.exists_holds_of_le hshows.wellFormed.lines_ne_nil hoffset
  exact ⟨position, hholds, hplace, hfits.row_le hholds, hfits.col_le hholds⟩

theorem insertText (hshows : area.Shows text) {word : Text} (hword : word.Typable) :
    (area.insertText word).Shows (text.take area.caret ++ word ++ text.drop area.caret) ∧
      (area.insertText word).caret = area.caret + word.length := by
  have hcaret : area.caret ≤ area.text.length := hshows.wellFormed.cursor.offset_le
  have hcut := hshows.wellFormed.insertText_cutAt hword
  rw [hshows.mark, Nat.min_self, Nat.max_self] at hcut
  refine ⟨⟨?_, hshows.wellFormed.insertText word, insertText_selection area word⟩, ?_⟩
  · rw [← hshows.text]
    exact hcut.text
  · refine hcut.offset.trans ?_
    rw [List.length_append, List.length_take_of_le hcaret]

theorem deleteText (hshows : area.Shows text) {length : Nat}
    (hrange : area.caret + length ≤ text.length) :
    (area.deleteText length).Shows
      (text.take area.caret ++ text.drop (area.caret + length)) := by
  rw [← hshows.text] at hrange ⊢
  obtain ⟨_, hcut⟩ := hshows.wellFormed.deleteText_cutAt hshows.mark hrange
  exact ⟨hcut.text, hshows.wellFormed.deleteText length, deleteText_selection area length⟩

end TextArea.Shows

namespace Pane

variable {pane : Pane} {text : Text}

section

variable (hshows : pane.area.Shows text)
include hshows

/-- A place behind the text is refused before anything is done. -/
theorem setCaret_of_shows_of_lt {offset : Nat} (hoffset : text.length < offset) :
    pane.setCaret offset = .refused pane (.outOfRange offset 0) := by
  apply setCaret_of_not_cursorReaches hshows.wellFormed
  intro hreach
  have hinside := hreach.1
  rw [hshows.text] at hinside
  omega

theorem insert_of_shows_of_lt {offset : Nat} (hoffset : text.length < offset) (word : Text) :
    pane.insert offset word = .refused pane (.outOfRange offset 0) := by
  rw [insert, setCaret_of_shows_of_lt hshows hoffset, Edited.andThen_refused]

theorem remove_of_shows_of_lt {start length : Nat} (hwords : start + length ≤ Text.max64)
    (hrange : text.length < start + length) :
    pane.remove start length = .refused pane (.outOfRange start length) := by
  have hbehind : pane.area.length < start + length := by
    rwa [TextArea.length_eq, hshows.text]
  rw [remove, if_pos hbehind, rangeFault, if_pos hwords]

variable (hfits : Lines.Fits (Text.lines text))
include hfits

theorem exists_setCaret_of_shows {offset : Nat} (hoffset : offset ≤ text.length) :
    ∃ area : TextArea, pane.setCaret offset = ⟨{ pane with area }, none⟩ ∧ area.Shows text ∧
      area.caret = offset := by
  obtain ⟨position, hholds, rfl, hrow, hcol⟩ := hshows.exists_holds hfits hoffset
  exact ⟨_, pane.setCaret_offset hholds hrow hcol, hshows.movedTo hholds, rfl⟩

theorem exists_insert_of_shows {offset : Nat} (hoffset : offset ≤ text.length) {word : Text}
    (hword : word.Typable) :
    ∃ area : TextArea, pane.insert offset word = ⟨{ pane with area }, none⟩ ∧
      area.Shows (text.take offset ++ word ++ text.drop offset) ∧
      area.caret = offset + word.length := by
  obtain ⟨area, hset, hmoved, rfl⟩ := exists_setCaret_of_shows hshows hfits hoffset
  obtain ⟨hinserted, hcaret⟩ := hmoved.insertText hword
  refine ⟨area.insertText word, ?_, hinserted, hcaret⟩
  rw [insert, hset, Edited.andThen_done]

theorem exists_remove_of_shows {start length : Nat} (hrange : start + length ≤ text.length) :
    ∃ area : TextArea, pane.remove start length = ⟨{ pane with area }, none⟩ ∧
      area.Shows (text.take start ++ text.drop (start + length)) := by
  have hinside : start + length ≤ pane.area.text.length := by rwa [hshows.text]
  obtain ⟨area, hset, hmoved, rfl⟩ :=
    exists_setCaret_of_shows hshows hfits (Nat.le_trans (Nat.le_add_right start length) hrange)
  rw [remove, if_neg (pane.not_length_lt hinside), hset, Edited.andThen_done]
  by_cases hzero : length = 0
  · -- An empty range only moves the cursor.
    subst hzero
    refine ⟨area, if_pos rfl, ?_⟩
    rwa [Nat.add_zero, List.take_append_drop]
  · exact ⟨area.deleteText length, if_neg hzero, hmoved.deleteText hrange⟩

end

end Pane

namespace Surface

/-- The calls that edit a document or read a piece of it. -/
inductive Call where
  | setCaret (offset : Nat)
  | remove (start length : Nat)
  | insert (offset : Nat) (word : Text)
  | span (start length : Nat)

/-- The end of a range that is deleted has at most 64 bits, and what is put in
is typable. -/
def Call.Regular : Call → Prop
  | .remove start length => start + length ≤ Text.max64
  | .insert _ word => word.Typable
  | .setCaret _ | .span _ _ => True

instance : (request : Call) → Decidable request.Regular
  | .remove start length => inferInstanceAs (Decidable (start + length ≤ Text.max64))
  | .insert _ word => inferInstanceAs (Decidable word.Typable)
  | .setCaret _ | .span _ _ => .isTrue trivial

/-- Whether a call is made to put the caret somewhere. -/
def Call.placesCaret : Call → Bool
  | .setCaret _ | .insert _ _ => true
  | .remove _ _ | .span _ _ => false

/-- A document with the answer to a call: the piece of text that was asked for,
if any, or the fault of a call that failed. -/
abbrev Answered (σ : Type) := σ × Except Fault (Option Text)

variable {σ τ : Type}

def answered (edited : Edited σ) : Answered σ :=
  (edited.document, edited.fault?.elim (.ok none) .error)

/-- One call in a sequence of calls. -/
structure Moment (σ : Type) where
  before : σ
  request : Call
  after : σ
  answer : Except Fault (Option Text)

variable [Surface σ] [Surface τ]

def call (document : σ) : Call → Answered σ
  | .setCaret offset => answered (setCaret document offset)
  | .remove start length => answered (remove document start length)
  | .insert offset word => answered (insert document offset word)
  | .span start length => (document, (span document start length).map some)

/-- What happens in a sequence of calls. -/
def moments (document : σ) : List Call → List (Moment σ)
  | [] => []
  | request :: requests =>
    let (after, answer) := call document request
    ⟨document, request, after, answer⟩ :: moments after requests

namespace Moment

def Failed (moment : Moment σ) : Prop :=
  ∃ fault, moment.answer = .error fault

def Unchanged (moment : Moment σ) : Prop :=
  text moment.after = text moment.before ∧ caret moment.after = caret moment.before

/-- Two documents are called alike: they give the same answer and have the same
text then, and the same caret if the call was to put it somewhere.  A call that
failed has changed neither. -/
structure Agree (left : Moment σ) (right : Moment τ) : Prop where
  answer : right.answer = left.answer
  text : text right.after = text left.after
  caret : left.request.placesCaret = true → ¬ left.Failed → caret right.after = caret left.after
  failed : left.Failed → left.Unchanged ∧ right.Unchanged

end Moment

variable {buffer : Buffer} {pane : Pane}

/-- A call to which a buffer and a pane answer alike, so that the pane shows the
text of the buffer again. -/
structure Concord (buffer : Buffer) (pane : Pane) (request : Call) : Prop where
  agree : Moment.Agree
    ⟨buffer, request, (call buffer request).1, (call buffer request).2⟩
    ⟨pane, request, (call pane request).1, (call pane request).2⟩
  shows : (call pane request).1.area.Shows (call buffer request).1.text

theorem concord_of_refused {request : Call} {fault : Fault}
    (hshows : pane.area.Shows buffer.text) (hleft : call buffer request = (buffer, .error fault))
    (hright : call pane request = (pane, .error fault)) : Concord buffer pane request := by
  refine ⟨?_, ?_⟩
  · rw [hleft, hright]
    exact
      { answer := rfl
        text := hshows.text
        caret := fun _ hdone => absurd ⟨fault, rfl⟩ hdone
        failed := fun _ => ⟨⟨rfl, rfl⟩, ⟨rfl, rfl⟩⟩ }
  · rw [hleft, hright]
    exact hshows

theorem concord_of_done {request : Call} {piece : Option Text} {edited : Buffer} {shown : Pane}
    (hshows : shown.area.Shows edited.text)
    (hcaret : request.placesCaret = true → shown.area.caret = edited.caret)
    (hleft : call buffer request = (edited, .ok piece))
    (hright : call pane request = (shown, .ok piece)) : Concord buffer pane request := by
  refine ⟨?_, ?_⟩
  · rw [hleft, hright]
    exact
      { answer := rfl
        text := hshows.text
        caret := fun hplaces _ => shown.caret_eq.trans (hcaret hplaces)
        failed := fun ⟨_, hfault⟩ => nomatch hfault }
  · rw [hleft, hright]
    exact hshows

/-- One call, while the pane shows the text of the buffer. -/
theorem concord (hshows : pane.area.Shows buffer.text)
    (hfits : Lines.Fits (Text.lines buffer.text)) {request : Call} (hregular : request.Regular) :
    Concord buffer pane request := by
  cases request with
  | setCaret offset =>
      by_cases hoffset : offset ≤ buffer.text.length
      · obtain ⟨area, hset, hmoved, hcaret⟩ :=
          Pane.exists_setCaret_of_shows hshows hfits hoffset
        exact concord_of_done hmoved (fun _ => hcaret)
          (congrArg answered (buffer.setCaret_eq hoffset)) (congrArg answered hset)
      · have hbehind := Nat.lt_of_not_le hoffset
        exact concord_of_refused hshows (congrArg answered (buffer.setCaret_of_lt hbehind))
          (congrArg answered (Pane.setCaret_of_shows_of_lt hshows hbehind))
  | remove start length =>
      by_cases hrange : start + length ≤ buffer.text.length
      · -- The carets part here; the next call that places them brings them together.
        obtain ⟨area, hremove, hremoved⟩ := Pane.exists_remove_of_shows hshows hfits hrange
        exact concord_of_done hremoved (fun hplaces => nomatch hplaces)
          (congrArg answered (buffer.remove_eq hrange)) (congrArg answered hremove)
      · have hbehind := Nat.lt_of_not_le hrange
        exact concord_of_refused hshows (congrArg answered (buffer.remove_of_lt hbehind))
          (congrArg answered (Pane.remove_of_shows_of_lt hshows hregular hbehind))
  | insert offset word =>
      by_cases hoffset : offset ≤ buffer.text.length
      · obtain ⟨area, hinsert, hinserted, hcaret⟩ :=
          Pane.exists_insert_of_shows hshows hfits hoffset hregular
        exact concord_of_done hinserted (fun _ => hcaret)
          (congrArg answered (buffer.insert_eq hoffset word)) (congrArg answered hinsert)
      · have hbehind := Nat.lt_of_not_le hoffset
        exact concord_of_refused hshows (congrArg answered (buffer.insert_of_lt hbehind word))
          (congrArg answered (Pane.insert_of_shows_of_lt hshows hbehind word))
  | span start length =>
      have hsame : span pane start length = span buffer start length :=
        congrArg (Text.span · start length) hshows.text
      cases hspan : span buffer start length with
      | error fault =>
          apply concord_of_refused hshows
          · rw [call, hspan]
            rfl
          · rw [call, hsame, hspan]
            rfl
      | ok piece =>
          have hleft : call buffer (.span start length) = (buffer, .ok (some piece)) := by
            rw [call, hspan]
            rfl
          have hright : call pane (.span start length) = (pane, .ok (some piece)) := by
            rw [call, hsame, hspan]
            rfl
          exact concord_of_done hshows (fun hplaces => nomatch hplaces) hleft hright

theorem moments_agree (hshows : pane.area.Shows buffer.text) {requests : List Call}
    (hregular : ∀ request ∈ requests, request.Regular)
    (hfits : ∀ moment ∈ moments buffer requests, Lines.Fits (Text.lines (text moment.before))) :
    List.Forall₂ Moment.Agree (moments buffer requests) (moments pane requests) := by
  induction requests generalizing buffer pane with
  | nil => exact List.Forall₂.nil
  | cons request requests ih =>
      obtain ⟨hfirst, hrest⟩ := List.forall_mem_cons.1 hregular
      obtain ⟨hnow, hlater⟩ := List.forall_mem_cons.1 hfits
      have hconcord := concord hshows hnow hfirst
      exact List.Forall₂.cons hconcord.agree (ih hconcord.shows hrest hlater)

/-- A buffer and a pane made of the same text answer all calls alike, as long as
the text is in reach of a cursor and what is put in is typable. -/
theorem moments_ofText_agree (text : Text) (requests : List Call)
    (hregular : ∀ request ∈ requests, request.Regular)
    (hfits : ∀ moment ∈ moments (Buffer.ofText text) requests,
      Lines.Fits (Text.lines (Surface.text moment.before))) :
    List.Forall₂ Moment.Agree (moments (Buffer.ofText text) requests)
      (moments (Pane.ofText text) requests) :=
  moments_agree (TextArea.Shows.ofText text) hregular hfits

/-- A deletion takes a line break away and an insertion puts one in.  After the
deletion alone the carets differ, and the two calls that fail change nothing. -/
theorem moments_ofText_agree_breaks :
    let requests : List Call := [.remove 1 3, .remove 2 1, .insert 1 "x\ny".toList, .span 2 2,
      .setCaret 6]
    let inBuffer := moments (Buffer.ofText "ab\n漢d".toList) requests
    let inPane := moments (Pane.ofText "ab\n漢d".toList) requests
    inBuffer.map (fun moment => (text moment.after, caret moment.after)) =
        [("ad".toList, 2), ("ad".toList, 2), ("ax\nyd".toList, 4), ("ax\nyd".toList, 4),
          ("ax\nyd".toList, 4)] ∧
      inPane.map (fun moment => caret moment.after) = [1, 1, 4, 4, 4] ∧
      List.Forall₂ Moment.Agree inBuffer inPane := by
  intro requests inBuffer inPane
  have hregular : ∀ request ∈ requests, request.Regular := by decide +kernel
  have hfits : ∀ moment ∈ inBuffer, Lines.Fits (Text.lines (text moment.before)) := by
    decide +kernel
  exact ⟨by decide +kernel, by decide +kernel, moments_ofText_agree _ requests hregular hfits⟩

end Surface

end ClassExpr
