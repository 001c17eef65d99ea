/-
The life of a completer.  Its host asks for operations, inserts words and
edits the document in any order, and the checker and the source of candidates
may change their answers between two operations.

An operation does one of a few things to the completer.  They are listed once
in `Effect`, so what holds of every run is proved over that list.
-/
import ClassExpr.Completion.Key

namespace ClassExpr
namespace Completer

variable {σ : Type}

/-- What a host can ask of a completer and is answered with an outcome. -/
inductive Operation where
  | trigger
  | refresh
  | refreshIfStale
  | accept
  | dismiss
  | moveSelection (delta : Int)
  | acceptRow (row : Nat)
  | key (input : KeyInput)
  deriving DecidableEq, Repr

/-- What happens to a completer. -/
inductive Event (σ : Type) where
  | operation (operation : Operation)
  | insertWord (word : Text)
  | moveToWindow (owner : Nat)
  | detach
  /-- The document is edited, or the checker or the source come to answer
  differently. -/
  | change (document : σ) (checker : Checker) (source : CandidateSource)

/-- The window that an event binds the popup to. -/
def Event.owner? : Event σ → Option Nat
  | .moveToWindow owner => some owner
  | _ => none

/-- The window that the popup was bound to last. -/
def lastOwner? (events : List (Event σ)) : Option Nat :=
  (events.filterMap Event.owner?).getLast?

theorem lastOwner?_concat (events : List (Event σ)) (event : Event σ) :
    lastOwner? (events ++ [event]) = event.owner?.or (lastOwner? events) := by
  unfold lastOwner?
  rw [List.filterMap_append, List.getLast?_append]
  cases howner : event.owner? <;> simp [howner]

section

variable [Surface σ]

def perform (completer : Completer σ) : Operation → Reaction σ
  | .trigger => completer.trigger
  | .refresh => completer.refresh
  | .refreshIfStale => completer.refreshIfStale
  | .accept => completer.accept
  | .dismiss => completer.dismiss
  | .moveSelection delta => completer.moveSelection delta
  | .acceptRow row => completer.acceptRow row
  | .key input => (completer.dispatch input).reaction

def next (completer : Completer σ) : Event σ → Completer σ
  | .operation operation => (completer.perform operation).completer
  | .insertWord word => (completer.insertWord word).1
  | .moveToWindow owner => completer.moveToWindow owner
  | .detach => completer.detach
  | .change document checker source =>
    { completer with document, source, probe := { completer.probe with checker } }

def run (completer : Completer σ) (events : List (Event σ)) : Completer σ :=
  events.foldl next completer

theorem run_append (completer : Completer σ) (before after : List (Event σ)) :
    completer.run (before ++ after) = (completer.run before).run after :=
  List.foldl_append

theorem run_concat (completer : Completer σ) (events : List (Event σ)) (event : Event σ) :
    completer.run (events ++ [event]) = (completer.run events).next event := by
  rw [run_append]
  rfl

end

/-- Only the index of the selected row differs. -/
inductive Selects : Popup → Popup → Prop where
  | here (popup : Popup) : Selects popup popup
  | next {popup moved : Popup} : Selects popup moved → Selects popup moved.selectNext
  | previous {popup moved : Popup} : Selects popup moved → Selects popup moved.selectPrevious

theorem Selects.repeat {step : Popup → Popup}
    (hstep : step = Popup.selectNext ∨ step = Popup.selectPrevious) (popup : Popup)
    (times : Nat) : Selects popup (Nat.repeat step times popup) := by
  induction times with
  | zero => exact .here popup
  | succ times ih =>
      rw [Nat.repeat]
      rcases hstep with rfl | rfl
      · exact .next ih
      · exact .previous ih

variable [Surface σ]

/-- Everything that an operation can do to a completer. -/
inductive Effect (completer : Completer σ) : Reaction σ → Prop where
  | idle (checked : List Text) :
      checked = [] ∨ checked = completer.lookup.checked →
      Effect completer { completer, checked }
  | hidden (checked : List Text) :
      checked = [] ∨ checked = completer.lookup.checked →
      Effect completer
        { completer := { completer with popup := completer.popup.hide }
          outcome := .popupHidden
          checked }
  | filled :
      completer.attached = true → completer.popup.visible = true →
      Effect completer
        { completer :=
            { completer with
              popup := (completer.popup.noteProbe (Surface.text completer.document)).populate
                completer.lookup.candidates }
          outcome := .popupUpdated
          checked := completer.lookup.checked }
  | opened (anchor : Anchor) :
      completer.attached = true → completer.popup.visible = false →
      completer.popupAnchor? = some anchor →
      Effect completer
        { completer :=
            { completer with
              popup := (completer.popup.openAt anchor (Surface.text completer.document)).populate
                completer.lookup.candidates }
          outcome := .popupShown
          checked := completer.lookup.checked }
  | completed (candidate : Candidate) (checked : List Text) :
      candidate ∈ completer.popup.rows ∨ completer.lookup.candidates = [candidate] →
      checked = [] ∨ checked = completer.lookup.checked →
      Effect completer (completer.complete candidate.insertion checked)
  | moved (popup : Popup) :
      Selects completer.popup popup →
      Effect completer { completer := { completer with popup }, outcome := .popupUpdated }

theorem trigger_effect (completer : Completer σ) : Effect completer completer.trigger := by
  unfold trigger
  split
  · exact .idle [] (Or.inl rfl)
  · rename_i hattached
    have hattached : completer.attached = true := by simpa using hattached
    dsimp only
    split
    · exact .idle _ (Or.inr rfl)
    · rename_i candidate hfound
      exact .completed candidate _ (Or.inr hfound) (Or.inr rfl)
    · unfold offer
      cases hvisible : completer.popup.visible with
      | true => exact .filled hattached hvisible
      | false =>
          cases hanchor : completer.popupAnchor? with
          | none => exact .idle _ (Or.inr rfl)
          | some anchor => exact .opened anchor hattached hvisible hanchor

theorem refresh_effect (completer : Completer σ) : Effect completer completer.refresh := by
  unfold refresh
  split
  · exact .idle [] (Or.inl rfl)
  · rename_i hopen
    simp only [Bool.or_eq_true, Bool.not_eq_true', not_or, Bool.not_eq_false] at hopen
    dsimp only
    split
    · exact .hidden _ (Or.inr rfl)
    · exact .filled hopen.1 hopen.2

theorem refreshIfStale_effect (completer : Completer σ) :
    Effect completer completer.refreshIfStale := by
  unfold refreshIfStale
  split
  · exact completer.refresh_effect
  · exact .idle [] (Or.inl rfl)

theorem selected?_mem_rows {popup : Popup} {candidate : Candidate}
    (hselected : popup.selected? = some candidate) : candidate ∈ popup.rows := by
  unfold Popup.selected? at hselected
  unfold Popup.rows
  cases hsession : popup.session with
  | none => simp [hsession] at hselected
  | some session =>
      rw [hsession] at hselected
      exact List.mem_of_getElem? hselected

theorem accept_effect (completer : Completer σ) : Effect completer completer.accept := by
  unfold accept
  split
  · exact .idle [] (Or.inl rfl)
  · split
    · exact .idle [] (Or.inl rfl)
    · rename_i candidate hselected
      exact .completed candidate [] (Or.inl (selected?_mem_rows hselected)) (Or.inl rfl)

theorem dismiss_effect (completer : Completer σ) : Effect completer completer.dismiss := by
  unfold dismiss
  split
  · exact .hidden [] (Or.inl rfl)
  · exact .idle [] (Or.inl rfl)

theorem moveSelection_effect (completer : Completer σ) (delta : Int) :
    Effect completer (completer.moveSelection delta) := by
  unfold moveSelection
  split
  · exact .idle [] (Or.inl rfl)
  · refine .moved _ (.repeat ?_ completer.popup delta.natAbs)
    split
    · exact Or.inl rfl
    · exact Or.inr rfl

/-- Selecting a row makes no difference to what a completion leaves. -/
theorem complete_of_hide_eq (completer : Completer σ) {popup : Popup}
    (hpopup : popup.hide = completer.popup.hide) (text : Text) (checked : List Text) :
    complete { completer with popup } text checked = completer.complete text checked := by
  unfold complete insertWord
  rw [show partialWord { completer with popup } = completer.partialWord from rfl]
  cases completer.partialWord with
  | error fault => simp [hpopup]
  | ok word? => cases word? <;> simp [hpopup]

/-- A popup selects the rows that it has. -/
theorem select?_cases (popup : Popup) (row : Nat) :
    (popup.select? row = none ∧ popup.rows[row]? = none) ∨
      ∃ chosen candidate, popup.select? row = some chosen ∧ popup.rows[row]? = some candidate ∧
        chosen.visible = popup.visible ∧ chosen.hide = popup.hide ∧
        chosen.selected? = some candidate := by
  unfold Popup.select? Popup.rows
  cases popup.session with
  | none => exact Or.inl ⟨rfl, rfl⟩
  | some session =>
      dsimp only [Option.map_some, Option.getD_some]
      by_cases hrow : row < session.rows.length
      · rw [if_pos hrow]
        have hcandidate := List.getElem?_eq_getElem hrow
        exact Or.inr ⟨_, session.rows[row], rfl, hcandidate, rfl, rfl, hcandidate⟩
      · rw [if_neg hrow]
        exact Or.inl ⟨rfl, List.getElem?_eq_none (Nat.le_of_not_lt hrow)⟩

/-- Accepting a row of an open popup is completing with that row.  The row is
selected first, but completing hides the popup and with it the selection. -/
theorem acceptRow_eq {completer : Completer σ} (hattached : completer.attached = true)
    (hvisible : completer.popup.visible = true) (row : Nat) :
    completer.acceptRow row =
      match completer.popup.rows[row]? with
      | some candidate => completer.complete candidate.insertion []
      | none => { completer } := by
  unfold acceptRow
  rw [if_pos (by simp [hattached, hvisible])]
  rcases select?_cases completer.popup row with
    ⟨hnone, hrow⟩ | ⟨chosen, candidate, hchosen, hrow, hshown, hhide, hselected⟩
  · rw [hnone, hrow]
  · rw [hchosen, hrow]
    dsimp only
    unfold accept
    rw [if_neg (by simp [hattached, hshown, hvisible]), hselected]
    exact completer.complete_of_hide_eq hhide candidate.insertion []

theorem acceptRow_effect (completer : Completer σ) (row : Nat) :
    Effect completer (completer.acceptRow row) := by
  by_cases hopen : completer.attached = true ∧ completer.popup.visible = true
  · rw [acceptRow_eq hopen.1 hopen.2]
    cases hrow : completer.popup.rows[row]? with
    | none => exact .idle [] (Or.inl rfl)
    | some candidate =>
        exact .completed candidate [] (Or.inl (List.mem_of_getElem? hrow)) (Or.inl rfl)
  · unfold acceptRow
    rw [if_neg (by simpa using hopen)]
    exact .idle [] (Or.inl rfl)

theorem press_effect (completer : Completer σ) (input : KeyInput) :
    Effect completer (completer.press input).reaction := by
  unfold press
  split
  · exact completer.trigger_effect
  · split
    · exact completer.trigger_effect
    · exact completer.dismiss_effect
    · exact completer.accept_effect
    · exact completer.moveSelection_effect 1
    · exact completer.moveSelection_effect (-1)
    · exact completer.dismiss_effect
    · exact completer.dismiss_effect
    · exact .idle [] (Or.inl rfl)

theorem release_effect (completer : Completer σ) (input : KeyInput) :
    Effect completer (completer.release input).reaction := by
  unfold release
  split
  · exact .idle [] (Or.inl rfl)
  · exact .idle [] (Or.inl rfl)
  · exact completer.refreshIfStale_effect

theorem dispatch_effect (completer : Completer σ) (input : KeyInput) :
    Effect completer (completer.dispatch input).reaction := by
  unfold dispatch
  split
  · exact .idle [] (Or.inl rfl)
  · split
    · exact completer.press_effect input
    · exact completer.release_effect input

/-- Every operation has one of the listed effects. -/
theorem perform_effect (completer : Completer σ) (operation : Operation) :
    Effect completer (completer.perform operation) := by
  cases operation with
  | trigger => exact completer.trigger_effect
  | refresh => exact completer.refresh_effect
  | refreshIfStale => exact completer.refreshIfStale_effect
  | accept => exact completer.accept_effect
  | dismiss => exact completer.dismiss_effect
  | moveSelection delta => exact completer.moveSelection_effect delta
  | acceptRow row => exact completer.acceptRow_effect row
  | key input => exact completer.dispatch_effect input

end Completer
end ClassExpr
