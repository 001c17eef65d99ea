/-
Which candidate an operation of a completer puts into the document.

Only a trigger with a single candidate and an accepted row do so, and the keys
that stand for them.  Such an operation is one completion with that candidate;
all others leave the document alone and report no insertion.
-/
import ClassExpr.Proofs.CompleterRun

namespace ClassExpr
namespace Completer

variable {σ : Type} [Surface σ]

/-- The candidate that a trigger inserts at once. -/
def triggered? (completer : Completer σ) : Option Candidate :=
  if completer.attached then
    match completer.lookup.candidates with
    | [only] => some only
    | _ => none
  else none

/-- The candidate that an open popup has selected. -/
def accepted? (completer : Completer σ) : Option Candidate :=
  if completer.attached && completer.popup.visible then completer.popup.selected? else none

/-- The candidate that an operation inserts. -/
def choice? (completer : Completer σ) : Operation → Option Candidate
  | .trigger => completer.triggered?
  | .accept => completer.accepted?
  | .acceptRow row =>
    if completer.attached && completer.popup.visible then completer.popup.rows[row]? else none
  | .key input =>
    if input.phase = .release then none
    else if input.isShortcut || input.key == .tab then completer.triggered?
    else if input.key = .enter then completer.accepted?
    else none
  | .refresh | .refreshIfStale | .dismiss | .moveSelection _ => none

/-- What an operation does that has chosen a candidate, or none. -/
inductive CarriesOut (completer : Completer σ) : Option Candidate → Reaction σ → Prop where
  | left {reaction : Reaction σ} :
      reaction.completer.document = completer.document →
      (∀ word, reaction.outcome ≠ .inserted word) → CarriesOut completer none reaction
  | completed (candidate : Candidate) (checked : List Text) :
      CarriesOut completer (some candidate) (completer.complete candidate.insertion checked)

section

variable {completer : Completer σ} {reaction : Reaction σ} {candidate : Candidate}

theorem CarriesOut.document_of_none (hcarries : CarriesOut completer none reaction) :
    reaction.completer.document = completer.document := by
  cases hcarries with
  | left hdocument _ => exact hdocument

/-- The document is what the insertion of the candidate leaves, whether or not
it was refused. -/
theorem CarriesOut.document_of_some (hcarries : CarriesOut completer (some candidate) reaction) :
    reaction.completer.document = (completer.insertWord candidate.insertion).1.document := by
  cases hcarries with
  | completed _ _ => rfl

theorem CarriesOut.outcome_of_some (hcarries : CarriesOut completer (some candidate) reaction) :
    reaction.outcome =
      if (completer.insertWord candidate.insertion).2.isNone then .inserted candidate.insertion
      else .nothing := by
  cases hcarries with
  | completed _ _ => rfl

end

theorem carriesOut_idle (completer : Completer σ) (checked : List Text) :
    CarriesOut completer none { completer, checked } :=
  .left rfl (by simp)

theorem offer_carriesOut (completer : Completer σ) (found : Lookup) :
    CarriesOut completer none (completer.offer found) := by
  unfold offer
  dsimp only
  split
  · exact .left rfl (by simp)
  · split
    · exact completer.carriesOut_idle _
    · exact .left rfl (by simp)

theorem trigger_carriesOut (completer : Completer σ) :
    CarriesOut completer completer.triggered? completer.trigger := by
  unfold triggered? trigger
  cases completer.attached with
  | false => exact completer.carriesOut_idle []
  | true =>
      dsimp only
      cases completer.lookup.candidates with
      | nil => exact completer.carriesOut_idle _
      | cons first rest =>
          cases rest with
          | nil => exact .completed first _
          | cons second rest => exact completer.offer_carriesOut _

theorem refresh_carriesOut (completer : Completer σ) :
    CarriesOut completer none completer.refresh := by
  unfold refresh
  split
  · exact completer.carriesOut_idle []
  · dsimp only
    split
    · exact .left rfl (by simp)
    · exact .left rfl (by simp)

theorem refreshIfStale_carriesOut (completer : Completer σ) :
    CarriesOut completer none completer.refreshIfStale := by
  unfold refreshIfStale
  split
  · exact completer.refresh_carriesOut
  · exact completer.carriesOut_idle []

theorem accept_carriesOut (completer : Completer σ) :
    CarriesOut completer completer.accepted? completer.accept := by
  unfold accepted? accept
  cases completer.attached with
  | false => exact completer.carriesOut_idle []
  | true =>
      cases completer.popup.visible with
      | false => exact completer.carriesOut_idle []
      | true =>
          cases hselected : completer.popup.selected? with
          | none => exact completer.carriesOut_idle []
          | some candidate => exact .completed candidate []

theorem dismiss_carriesOut (completer : Completer σ) :
    CarriesOut completer none completer.dismiss := by
  unfold dismiss
  split
  · exact .left rfl (by simp)
  · exact completer.carriesOut_idle []

theorem moveSelection_carriesOut (completer : Completer σ) (delta : Int) :
    CarriesOut completer none (completer.moveSelection delta) := by
  unfold moveSelection
  split
  · exact completer.carriesOut_idle []
  · exact .left rfl (by simp)

theorem acceptRow_carriesOut (completer : Completer σ) (row : Nat) :
    CarriesOut completer (completer.choice? (.acceptRow row)) (completer.acceptRow row) := by
  unfold choice?
  dsimp only
  by_cases hopen : completer.attached = true ∧ completer.popup.visible = true
  · rw [acceptRow_eq hopen.1 hopen.2, if_pos (by simpa using hopen)]
    cases completer.popup.rows[row]? with
    | none => exact completer.carriesOut_idle []
    | some candidate => exact .completed candidate []
  · unfold acceptRow
    rw [if_neg (by simpa using hopen), if_neg (by simpa using hopen)]
    exact completer.carriesOut_idle []

/-- On their way down the completion keys trigger, and enter accepts if a popup
is open. -/
theorem press_carriesOut (completer : Completer σ) {input : KeyInput}
    (hpress : input.phase = .press) :
    CarriesOut completer (completer.choice? (.key input)) (completer.press input).reaction := by
  unfold choice? press
  dsimp only
  rw [if_neg (by simp [hpress])]
  cases hshortcut : input.isShortcut with
  | true => exact completer.trigger_carriesOut
  | false =>
      have hidle := completer.carriesOut_idle []
      cases hkey : input.key with
      | tab => exact completer.trigger_carriesOut
      | enter =>
          cases hvisible : completer.popup.visible with
          | true => exact completer.accept_carriesOut
          | false => simpa [accepted?, hvisible] using hidle
      | escape =>
          cases completer.popup.visible with
          | true => exact completer.dismiss_carriesOut
          | false => exact hidle
      | down =>
          cases completer.popup.visible with
          | true => exact completer.moveSelection_carriesOut 1
          | false => exact hidle
      | up =>
          cases completer.popup.visible with
          | true => exact completer.moveSelection_carriesOut (-1)
          | false => exact hidle
      | left => exact completer.dismiss_carriesOut
      | right => exact completer.dismiss_carriesOut
      | _ => exact hidle

theorem release_carriesOut (completer : Completer σ) (input : KeyInput) :
    CarriesOut completer none (completer.release input).reaction := by
  unfold release
  split
  · exact completer.carriesOut_idle []
  · exact completer.carriesOut_idle []
  · exact completer.refreshIfStale_carriesOut

/-- A detached completer chooses nothing. -/
theorem choice?_of_detached {completer : Completer σ} (hdetached : completer.attached = false)
    (operation : Operation) : completer.choice? operation = none := by
  cases operation <;> simp [choice?, triggered?, accepted?, hdetached]

theorem dispatch_carriesOut (completer : Completer σ) (input : KeyInput) :
    CarriesOut completer (completer.choice? (.key input))
      (completer.dispatch input).reaction := by
  unfold dispatch
  cases hattached : completer.attached with
  | false =>
      rw [choice?_of_detached hattached]
      exact completer.carriesOut_idle []
  | true =>
      cases hphase : input.phase with
      | press => exact completer.press_carriesOut hphase
      | release => simpa [choice?, hphase] using completer.release_carriesOut input

/-- An operation completes with the candidate it chooses and else leaves the
document alone. -/
theorem perform_carriesOut (completer : Completer σ) (operation : Operation) :
    CarriesOut completer (completer.choice? operation) (completer.perform operation) := by
  cases operation with
  | trigger => exact completer.trigger_carriesOut
  | refresh => exact completer.refresh_carriesOut
  | refreshIfStale => exact completer.refreshIfStale_carriesOut
  | accept => exact completer.accept_carriesOut
  | dismiss => exact completer.dismiss_carriesOut
  | moveSelection delta => exact completer.moveSelection_carriesOut delta
  | acceptRow row => exact completer.acceptRow_carriesOut row
  | key input => exact completer.dispatch_carriesOut input

end Completer
end ClassExpr
