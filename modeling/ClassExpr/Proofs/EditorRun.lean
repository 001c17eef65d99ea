/-
The life of an editor whose terminal reports no releases, so that it follows
every press with a release of its own.

Whatever reaches the editor, its completer goes through one of a few moves.
They are listed once in `Move`.  The one that matters is a key that passes on
to the text: the popup it meets is refreshed at once if the text has changed.
-/
import ClassExpr.Proofs.PopupCoherence
import ClassExpr.Terminal.Screen

namespace ClassExpr

namespace Completer

variable {σ : Type} [Surface σ]

/-- Of a completer, an operation changes the document and the popup only. -/
theorem Effect.frame {completer : Completer σ} {reaction : Reaction σ}
    (heffect : Effect completer reaction) :
    ∃ document popup, reaction.completer = { completer with document, popup } := by
  cases heffect with
  | idle _ _ => exact ⟨_, _, rfl⟩
  | hidden _ _ => exact ⟨_, _, rfl⟩
  | filled _ _ => exact ⟨_, _, rfl⟩
  | opened _ _ _ _ => exact ⟨_, _, rfl⟩
  | completed candidate checked _ _ =>
      obtain ⟨document, hdocument⟩ := completer.complete_eq candidate.insertion checked
      exact ⟨document, _, hdocument⟩
  | moved popup _ => exact ⟨_, popup, rfl⟩

omit [Surface σ] in
theorem dismiss_eq (completer : Completer σ) :
    ∃ popup, completer.dismiss.completer = { completer with popup } ∧
      (popup = completer.popup ∨ popup = completer.popup.hide) ∧ popup.visible = false := by
  unfold dismiss
  by_cases hvisible : completer.popup.visible = true
  · rw [if_pos hvisible]
    exact ⟨completer.popup.hide, rfl, Or.inr rfl, rfl⟩
  · rw [if_neg hvisible]
    exact ⟨completer.popup, rfl, Or.inl rfl, by simpa using hvisible⟩

/-- A press that is not consumed leaves the popup alone or closes it.  The
arrows that move the selection pass only if no popup is open. -/
theorem dispatch_of_passed {completer : Completer σ} (hattached : completer.attached = true)
    {input : KeyInput} (hpress : input.phase = .press) (hshortcut : input.isShortcut = false)
    (hpassed : (completer.dispatch input).consumed = false) :
    ∃ popup, (completer.dispatch input).reaction.completer = { completer with popup } ∧
      (popup = completer.popup ∨ popup = completer.popup.hide) ∧
      (input.key = .up ∨ input.key = .down → popup.visible = false) := by
  have hdispatch : completer.dispatch input = completer.press input := by
    simp [dispatch, hattached, hpress]
  rw [hdispatch] at hpassed ⊢
  unfold press at hpassed ⊢
  rw [if_neg (by simp [hshortcut])] at hpassed ⊢
  obtain ⟨popup, hpopup, horigin, hhidden⟩ := completer.dismiss_eq
  cases hkey : input.key with
  | left => exact ⟨popup, hpopup, horigin, fun _ => hhidden⟩
  | right => exact ⟨popup, hpopup, horigin, fun _ => hhidden⟩
  | tab => simp [hkey] at hpassed
  | escape | enter | up | down =>
      cases hvisible : completer.popup.visible with
      | true => simp [hkey, hvisible] at hpassed
      | false => exact ⟨completer.popup, rfl, Or.inl rfl, fun _ => hvisible⟩
  | _ => exact ⟨completer.popup, rfl, Or.inl rfl, by simp⟩

/-- The release that follows refreshes a stale popup. -/
theorem dispatch_release (completer : Completer σ) (input : KeyInput)
    (hattached : completer.attached = true)
    (harrows : input.key = .up ∨ input.key = .down → completer.popup.visible = false) :
    (completer.dispatch { input with phase := .release }).reaction =
      completer.refreshIfStale := by
  have hdispatch : completer.dispatch { input with phase := .release } =
      completer.release { input with phase := .release } := by
    simp [dispatch, hattached]
  rw [hdispatch]
  unfold release
  split
  · rename_i hkey
    simp [refreshIfStale, harrows (Or.inl hkey)]
  · rename_i hkey
    simp [refreshIfStale, harrows (Or.inr hkey)]
  · rfl

end Completer

namespace Editor

/-- What happens to an editor. -/
inductive Action where
  | event (event : EditorEvent)
  | draw (width height : Nat)

/-- The editor after an action.  The typing says what a key does to the
text. -/
def next (typing : Typing) (editor : Editor) : Action → Editor
  | .event event => handleWith typing editor event
  | .draw width height => (editor.draw width height).1

def run (typing : Typing) (editor : Editor) (actions : List Action) : Editor :=
  actions.foldl (next typing) editor

theorem run_concat (typing : Typing) (editor : Editor) (actions : List Action)
    (action : Action) :
    editor.run typing (actions ++ [action]) = (editor.run typing actions).next typing action := by
  simp [run]

/-- The pane after a key was given to its text. -/
def typedPane (typing : Typing) (pane : Pane) (event : KeyEvent) : Pane :=
  { pane with area := typing pane.area event }

/-- Everything that an action can do to the completer of an editor. -/
inductive Move (typing : Typing) (completer : Completer Pane) : Completer Pane → Prop where
  | still : Move typing completer completer
  | drawn (inner : Rect) :
      Move typing completer
        { completer with document := drawnPane completer.document inner }
  | rebound (owner : Nat) : Move typing completer (completer.moveToWindow owner)
  | reacted {reaction : Reaction Pane} :
      Completer.Effect completer reaction → Move typing completer reaction.completer
  | answered {first second : Reaction Pane} :
      Completer.Effect completer first → Completer.Effect first.completer second →
        Move typing completer second.completer
  | typed (event : KeyEvent) (popup : Popup) :
      popup = completer.popup ∨ popup = completer.popup.hide →
        Move typing completer
          (Completer.refreshIfStale
            { completer with
              popup
              document := typedPane typing completer.document event }).completer

/-- A live editor: its completer is attached and it follows presses with
releases. -/
def Live (editor : Editor) : Prop :=
  editor.completer.attached = true ∧ editor.synthesizeRelease = true

section Key

variable {typing : Typing} {editor : Editor} {event : KeyEvent} (hquit : isQuit event = false)

include hquit

theorem handleKeyWith_of_release (hphase : event.toInput.phase = .release) :
    (handleKeyWith typing editor event).completer =
      (editor.completer.dispatch event.toInput).reaction.completer := by
  simp [handleKeyWith, hquit, hphase, note]

/-- A press that stays with the completer, and its release. -/
theorem handleKeyWith_of_kept (hphase : event.toInput.phase = .press)
    (hrelease : editor.synthesizeRelease = true)
    (hkept : ((editor.completer.dispatch event.toInput).consumed ||
      event.toInput.isShortcut) = true) :
    (handleKeyWith typing editor event).completer =
      ((editor.completer.dispatch event.toInput).reaction.completer.dispatch
        { event.toInput with phase := .release }).reaction.completer := by
  simp only [handleKeyWith, hquit, hphase, hkept, note, hrelease, Bool.false_eq_true, if_false,
    if_true]

/-- A press that passes on to the text, and its release. -/
theorem handleKeyWith_of_passed (hphase : event.toInput.phase = .press)
    (hrelease : editor.synthesizeRelease = true)
    (hpassed : ((editor.completer.dispatch event.toInput).consumed ||
      event.toInput.isShortcut) = false) {passed : Completer Pane}
    (hdispatch : (editor.completer.dispatch event.toInput).reaction.completer = passed) :
    (handleKeyWith typing editor event).completer =
      (Completer.dispatch { passed with document := typedPane typing passed.document event }
        { event.toInput with phase := .release }).reaction.completer := by
  subst hdispatch
  simp only [handleKeyWith, hquit, hphase, hpassed, note, typeKey, typedPane, hrelease,
    Bool.false_eq_true, if_false, if_true]

end Key

theorem handleKeyWith_move (typing : Typing) {editor : Editor} (hlive : editor.Live)
    (event : KeyEvent) :
    Move typing editor.completer (handleKeyWith typing editor event).completer := by
  obtain ⟨hattached, hrelease⟩ := hlive
  cases hquit : isQuit event with
  | true =>
      have hsame : (handleKeyWith typing editor event).completer = editor.completer := by
        simp [handleKeyWith, hquit]
      rw [hsame]
      exact .still
  | false =>
      have hfirst := editor.completer.dispatch_effect event.toInput
      cases hphase : event.toInput.phase with
      | release =>
          rw [handleKeyWith_of_release hquit hphase]
          exact .reacted hfirst
      | press =>
          cases hkept : (editor.completer.dispatch event.toInput).consumed ||
              event.toInput.isShortcut with
          | true =>
              rw [handleKeyWith_of_kept hquit hphase hrelease hkept]
              exact .answered hfirst (Completer.dispatch_effect _ _)
          | false =>
              obtain ⟨hpassed, hshortcut⟩ := Bool.or_eq_false_iff.1 hkept
              obtain ⟨popup, hpopup, horigin, harrows⟩ :=
                Completer.dispatch_of_passed hattached hphase hshortcut hpassed
              let typed : Completer Pane :=
                { editor.completer with
                  popup
                  document := typedPane typing editor.completer.document event }
              have hanswer : (typed.dispatch { event.toInput with phase := .release }).reaction =
                  typed.refreshIfStale :=
                typed.dispatch_release event.toInput hattached harrows
              rw [handleKeyWith_of_passed hquit hphase hrelease hkept hpopup]
              exact hanswer ▸ .typed event popup horigin

theorem handleMouse_move (typing : Typing) (editor : Editor) (event : MouseEvent) (time : Nat) :
    Move typing editor.completer (editor.handleMouse event time).completer := by
  unfold handleMouse
  dsimp only
  split
  · exact .still
  · split
    · exact .still
    · exact .reacted (Completer.acceptRow_effect _ _)

/-- Every action of a live editor is one of the listed moves. -/
theorem next_move (typing : Typing) {editor : Editor} (hlive : editor.Live) (action : Action) :
    Move typing editor.completer (editor.next typing action).completer := by
  cases action with
  | draw width height => exact .drawn _
  | event event =>
      cases event with
      | key event => exact handleKeyWith_move typing hlive event
      | mouse event time => exact handleMouse_move typing editor event time
      | resize width height => exact .rebound _
      | other => exact .still

theorem next_synthesizeRelease (typing : Typing) (editor : Editor) (action : Action) :
    (editor.next typing action).synthesizeRelease = editor.synthesizeRelease := by
  cases action with
  | draw width height => rfl
  | event event =>
      cases event with
      | key event =>
          change (handleKeyWith typing editor event).synthesizeRelease = _
          unfold handleKeyWith
          split
          · rfl
          · dsimp only
            split
            · rfl
            · split <;> split <;> rfl
      | mouse event time =>
          change (editor.handleMouse event time).synthesizeRelease = _
          unfold handleMouse
          dsimp only
          split
          · rfl
          · split <;> rfl
      | resize width height => rfl
      | other => rfl

/-- Of the completer of an editor, an action changes the document and the popup
only. -/
theorem Move.frame {typing : Typing} {completer moved : Completer Pane}
    (hmove : Move typing completer moved) :
    ∃ document popup, moved = { completer with document, popup } := by
  cases hmove with
  | still => exact ⟨_, _, rfl⟩
  | drawn inner => exact ⟨_, _, rfl⟩
  | rebound owner => exact ⟨_, _, rfl⟩
  | reacted heffect => exact heffect.frame
  | answered hfirst hsecond =>
      obtain ⟨document, popup, hframe⟩ := hfirst.frame
      obtain ⟨document', popup', hframe'⟩ := hsecond.frame
      rw [hframe', hframe]
      exact ⟨document', popup', rfl⟩
  | typed event popup _ =>
      obtain ⟨document', popup', hframe⟩ := (Completer.refreshIfStale_effect
        { completer with popup, document := typedPane typing completer.document event }).frame
      rw [hframe]
      exact ⟨document', popup', rfl⟩

theorem Live.next {editor : Editor} (hlive : editor.Live) (typing : Typing) (action : Action) :
    (editor.next typing action).Live := by
  obtain ⟨document, popup, hframe⟩ := (next_move typing hlive action).frame
  refine ⟨?_, (next_synthesizeRelease typing editor action).trans hlive.2⟩
  rw [hframe]
  exact hlive.1

theorem run_live (typing : Typing) (text : Text) (vocabulary : Vocabulary) (settings : Settings)
    (actions : List Action) : ((new text vocabulary settings).run typing actions).Live := by
  induction actions using List.reverseRecOn with
  | nil => exact ⟨rfl, rfl⟩
  | append_singleton actions action ih =>
      rw [run_concat]
      exact ih.next typing action

/-- Delimiters, checker and source stay what they were at the start. -/
theorem run_frame (typing : Typing) (text : Text) (vocabulary : Vocabulary)
    (settings : Settings) (actions : List Action) :
    ∃ document popup, ((new text vocabulary settings).run typing actions).completer =
      { (new text vocabulary settings).completer with document, popup } := by
  induction actions using List.reverseRecOn with
  | nil => exact ⟨_, _, rfl⟩
  | append_singleton actions action ih =>
      obtain ⟨document, popup, hbefore⟩ := ih
      have hlive := run_live typing text vocabulary settings actions
      obtain ⟨document', popup', hframe⟩ := (next_move typing hlive action).frame
      rw [run_concat, hframe, hbefore]
      exact ⟨document', popup', rfl⟩

theorem popupInvariant_typed {settings : Settings} {owner? : Option Nat}
    {completer : Completer Pane} (hinv : completer.PopupInvariant settings owner?) {popup : Popup}
    (horigin : popup = completer.popup ∨ popup = completer.popup.hide) (pane : Pane) :
    Completer.PopupInvariant settings owner? { completer with popup, document := pane } := by
  have hpopup : Completer.PopupInvariant settings owner? { completer with popup } := by
    rcases horigin with rfl | rfl
    · exact hinv
    · exact hinv.hide
  exact hpopup.next (.change pane completer.probe.checker completer.source)

theorem Move.popupInvariant {typing : Typing} {settings : Settings}
    {completer moved : Completer Pane} (hmove : Move typing completer moved)
    (hinv : ∃ owner?, completer.PopupInvariant settings owner?) :
    ∃ owner?, moved.PopupInvariant settings owner? := by
  obtain ⟨owner?, hinv⟩ := hinv
  cases hmove with
  | still => exact ⟨_, hinv⟩
  | drawn inner => exact ⟨_, hinv.next (.change _ completer.probe.checker completer.source)⟩
  | rebound owner => exact ⟨_, hinv.next (.moveToWindow owner)⟩
  | reacted heffect => exact ⟨_, hinv.effect heffect⟩
  | answered hfirst hsecond => exact ⟨_, (hinv.effect hfirst).effect hsecond⟩
  | typed event popup horigin =>
      have htyped := popupInvariant_typed hinv horigin
        (typedPane typing completer.document event)
      exact ⟨_, htyped.effect (Completer.refreshIfStale_effect _)⟩

theorem run_popupInvariant (typing : Typing) (text : Text) (vocabulary : Vocabulary)
    (settings : Settings) (actions : List Action) :
    ∃ owner?, ((new text vocabulary settings).run typing actions).completer.PopupInvariant
      settings owner? := by
  induction actions using List.reverseRecOn with
  | nil => exact ⟨none, Completer.popupInvariant_attach _ _ _ settings⟩
  | append_singleton actions action ih =>
      have hlive := run_live typing text vocabulary settings actions
      rw [run_concat]
      exact (next_move typing hlive action).popupInvariant ih

end Editor

end ClassExpr
