/-
What a key event does to the text of an editor.

A key goes to the completer first and then, if the completer lets it pass, to
the text.  Keys that the completer lets pass choose no candidate, and a release
chooses none either, so of the two at most one edits the text, and it does so
once.
-/
import ClassExpr.Proofs.Choice
import ClassExpr.Proofs.EditorRun

namespace ClassExpr

namespace Completer

variable {σ : Type} [Surface σ] {completer : Completer σ} {input : KeyInput}

/-- A key that comes up changes no document. -/
theorem dispatch_document_of_release (completer : Completer σ)
    (hphase : input.phase = .release) :
    (completer.dispatch input).reaction.completer.document = completer.document := by
  have hcarries := completer.dispatch_carriesOut input
  have hnone : completer.choice? (.key input) = none := by simp [choice?, hphase]
  rw [hnone] at hcarries
  exact hcarries.document_of_none

/-- The keys that choose a candidate are consumed, except for the shortcut. -/
theorem choice?_of_passed (hpassed : (completer.dispatch input).consumed = false)
    (hshortcut : input.isShortcut = false) : completer.choice? (.key input) = none := by
  cases hattached : completer.attached with
  | false => exact choice?_of_detached hattached _
  | true =>
      cases hphase : input.phase with
      | release => simp [choice?, hphase]
      | press =>
          have hpress : (completer.press input).consumed = false := by
            simpa [dispatch, hattached, hphase] using hpassed
          cases hkey : input.key with
          | tab => simp [press, hshortcut, hkey] at hpress
          | enter =>
              cases hvisible : completer.popup.visible with
              | true => simp [press, hshortcut, hkey, hvisible] at hpress
              | false => simp [choice?, hphase, hshortcut, hkey, accepted?, hvisible]
          | _ => simp [choice?, hphase, hshortcut, hkey]

end Completer

namespace Editor

/-- Whether a key event is given to the text: a press that neither ends the
editor nor asks for completion and that the completer does not consume. -/
def reachesText (completer : Completer Pane) (event : KeyEvent) : Bool :=
  !isQuit event && event.toInput.phase == .press &&
    !((completer.dispatch event.toInput).consumed || event.toInput.isShortcut)

/-- The document that a key event leaves, for every meaning that keys can have
for the text: the document itself, the document after one completion, or the
document after the key alone.  Only the last depends on what the key means. -/
inductive KeyEdit (completer : Completer Pane) (event : KeyEvent) : (Typing → Pane) → Prop where
  | kept :
      isQuit event = true ∨ completer.choice? (.key event.toInput) = none →
      reachesText completer event = false →
      KeyEdit completer event fun _ => completer.document
  | completed (candidate : Candidate) :
      isQuit event = false → completer.choice? (.key event.toInput) = some candidate →
      reachesText completer event = false →
      KeyEdit completer event fun _ => (completer.insertWord candidate.insertion).1.document
  | typed :
      completer.choice? (.key event.toInput) = none → reachesText completer event = true →
      KeyEdit completer event fun typing => typedPane typing completer.document event

/-- The release that an editor makes up itself changes no document. -/
theorem document_of_synthesized (editor : Editor) (input : KeyInput) :
    (if editor.synthesizeRelease then
        editor.note (editor.completer.dispatch { input with phase := .release }).reaction
      else editor).completer.document = editor.completer.document := by
  split
  · exact editor.completer.dispatch_document_of_release rfl
  · rfl

theorem handleKeyWith_document (typing : Typing) (editor : Editor) {event : KeyEvent}
    (hquit : isQuit event = false) :
    (handleKeyWith typing editor event).completer.document =
      let document := (editor.completer.dispatch event.toInput).reaction.completer.document
      if reachesText editor.completer event then typedPane typing document event
      else document := by
  unfold handleKeyWith reachesText
  cases hphase : event.toInput.phase with
  | release => simp [hquit, hphase, note]
  | press =>
      simp only [hquit, hphase, Bool.false_eq_true, if_false]
      rw [document_of_synthesized]
      cases (editor.completer.dispatch event.toInput).consumed || event.toInput.isShortcut with
      | true => simp [note]
      | false => simp [note, typeKey, typedPane]

/-- A key event is one edit at most. -/
theorem handleKeyWith_keyEdit (editor : Editor) (event : KeyEvent) :
    KeyEdit editor.completer event
      fun typing => (handleKeyWith typing editor event).completer.document := by
  cases hquit : isQuit event with
  | true =>
      have hreaches : reachesText editor.completer event = false := by simp [reachesText, hquit]
      have hsame : ∀ typing, (handleKeyWith typing editor event).completer.document =
          editor.completer.document := by
        intro typing
        simp [handleKeyWith, hquit]
      simp only [hsame]
      exact .kept (Or.inl hquit) hreaches
  | false =>
      have hcarries := editor.completer.dispatch_carriesOut event.toInput
      simp only [fun typing => handleKeyWith_document typing editor hquit]
      cases hreaches : reachesText editor.completer event with
      | true =>
          -- What passes on to the text has chosen no candidate before.
          have hpassed : (editor.completer.dispatch event.toInput).consumed = false ∧
              event.toInput.isShortcut = false := by
            simp only [reachesText, Bool.and_eq_true, Bool.not_eq_true',
              Bool.or_eq_false_iff] at hreaches
            exact hreaches.2
          have hchoice := Completer.choice?_of_passed hpassed.1 hpassed.2
          rw [hchoice] at hcarries
          simp only [if_true, hcarries.document_of_none]
          exact .typed hchoice hreaches
      | false =>
          simp only [Bool.false_eq_true, if_false]
          cases hchoice : editor.completer.choice? (.key event.toInput) with
          | none =>
              rw [hchoice] at hcarries
              rw [hcarries.document_of_none]
              exact .kept (Or.inr hchoice) hreaches
          | some candidate =>
              rw [hchoice] at hcarries
              rw [hcarries.document_of_some]
              exact .completed candidate hquit hchoice hreaches

/-- Whatever state an editor is in, a key event leaves the document alone,
completes one word or gives the key to the text, and never two of these.  A
release that is reported or made up changes no document, and a key that the
completer consumes has the same effect whatever it would mean to the text. -/
theorem handleKeyWith_one_edit (editor : Editor) (event : KeyEvent) :
    KeyEdit editor.completer event
        (fun typing => (handleKeyWith typing editor event).completer.document) ∧
      (event.stroke = .release → ∀ typing,
        (handleKeyWith typing editor event).completer.document = editor.completer.document) ∧
      (∀ (completer : Completer Pane) (input : KeyInput), input.phase = .release →
        (completer.dispatch input).reaction.completer.document = completer.document) ∧
      ((editor.completer.dispatch event.toInput).consumed = true →
        ∀ typing other, handleKeyWith typing editor event = handleKeyWith other editor event) := by
  refine ⟨handleKeyWith_keyEdit editor event, ?_, ?_, ?_⟩
  · intro hstroke typing
    have hphase : event.toInput.phase = .release := by simp [KeyEvent.toInput, hstroke]
    have hquit : isQuit event = false := by simp [isQuit, hstroke]
    rw [handleKeyWith_of_release hquit hphase]
    exact editor.completer.dispatch_document_of_release hphase
  · intro completer input hphase
    exact completer.dispatch_document_of_release hphase
  · intro hconsumed typing other
    simp [handleKeyWith, hconsumed]

/-- Enter goes down and comes up while a popup is open. -/
theorem handleKeyWith_one_edit_enter :
    let typing : Typing := fun area event => (area.input event).1
    let vocabulary : Vocabulary := [⟨.cls, "menu#Pizza".toList⟩, ⟨.cls, "menu#Pita".toList⟩]
    let editor := (new "not P".toList vocabulary {}).run typing
      [.draw 80 24, .event (.key { code := .tab })]
    let down : KeyEvent := { code := .enter }
    let up : KeyEvent := { code := .enter, stroke := .release }
    (editor.completer.dispatch down.toInput).consumed = true ∧
      KeyEdit editor.completer down
        (fun typing => (handleKeyWith typing editor down).completer.document) ∧
      (∀ typing other, handleKeyWith typing editor down = handleKeyWith other editor down) ∧
      (∀ typing,
        (handleKeyWith typing editor up).completer.document = editor.completer.document) ∧
      (editor.completer.dispatch up.toInput).reaction.completer.document =
        editor.completer.document := by
  intro typing vocabulary editor down up
  have hconsumed : (editor.completer.dispatch down.toInput).consumed = true := by decide
  obtain ⟨hedit, _, _, hsame⟩ := handleKeyWith_one_edit editor down
  obtain ⟨_, hrelease, hdispatch, _⟩ := handleKeyWith_one_edit editor up
  exact ⟨hconsumed, hedit, hsame hconsumed, hrelease rfl,
    hdispatch editor.completer up.toInput rfl⟩

end Editor

end ClassExpr
