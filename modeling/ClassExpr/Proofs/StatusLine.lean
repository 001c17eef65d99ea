/-
The status line of an editor and its popup.

The line is set from the outcomes that the completer reports.  While a popup is
open it counts the rows.  Not every popup that closes is reported: a resize
drops it, and so does a completion that the document refuses.  The line then
goes on counting the rows of a popup that is gone, until the next outcome.
-/
import ClassExpr.Proofs.KeyEdits

namespace ClassExpr

theorem Text.ofNat_inj {first second : Nat} :
    Text.ofNat first = Text.ofNat second ↔ first = second := by
  refine ⟨fun hdigits => ?_, fun hsame => by rw [hsame]⟩
  calc
    first = Nat.ofDigitChars 10 (Text.ofNat first) 0 := Nat.ofDigitChars_ten_toDigits.symm
    _ = Nat.ofDigitChars 10 (Text.ofNat second) 0 := by rw [hdigits]
    _ = second := Nat.ofDigitChars_ten_toDigits

/-- Only a count reads like one. -/
theorem Status.text_eq_candidates_iff {status : Status} {count : Nat} :
    status.text = Text.ofNat count ++ " candidates".toList ↔ status = .candidates count := by
  cases status with
  | blank =>
      refine ⟨fun htext => ?_, fun hcount => nomatch hcount⟩
      exact absurd (List.append_eq_nil_iff.1 htext.symm).1 Nat.toDigits_ne_nil
  | candidates shown =>
      have htext : (Status.candidates shown).text = Text.ofNat shown ++ " candidates".toList := rfl
      rw [htext, List.append_cancel_right_eq, Text.ofNat_inj, Status.candidates.injEq]
  | inserted word =>
      refine ⟨fun htext => ?_, fun hcount => nomatch hcount⟩
      -- An insertion is told with a capital letter first, a count with a digit.
      obtain ⟨digit, digits, hdigits⟩ :=
        List.exists_cons_of_ne_nil (Nat.toDigits_ne_nil : Nat.toDigits 10 count ≠ [])
      have hdigit : digit.isDigit = true :=
        Nat.isDigit_of_mem_toDigits (by decide) (by decide) (hdigits ▸ List.mem_cons_self)
      have hcapital : 'I' = digit := by
        have hhead := congrArg List.head? htext
        rw [Text.ofNat, hdigits] at hhead
        exact Option.some.inj hhead
      subst hcapital
      exact absurd hdigit (by decide)

/-- What the status line is told of a popup: nothing if the popup stays as it
is, the number of rows if it is open, and something else if it is closed. -/
inductive Told (before after : Popup) (tell : Status → Status) : Prop where
  | kept : after = before → (∀ status, tell status = status) → Told before after tell
  | counted :
      after.visible = true → (∀ status, tell status = .candidates after.rows.length) →
        Told before after tell
  | closed (told : Status) :
      after.visible = false → (∀ count, told ≠ .candidates count) →
        (∀ status, tell status = told) → Told before after tell

theorem Told.comp {before middle after : Popup} {first second : Status → Status}
    (hfirst : Told before middle first) (hsecond : Told middle after second) :
    Told before after fun status => second (first status) := by
  cases hsecond with
  | counted hvisible htell => exact .counted hvisible fun status => htell (first status)
  | closed told hhidden hother htell =>
      exact .closed told hhidden hother fun status => htell (first status)
  | kept hsame htell =>
      subst hsame
      simpa only [htell] using hfirst

namespace Completer

variable {σ : Type}

theorem Selects.visible {popup moved : Popup} (hmoved : Selects popup moved) :
    moved.visible = popup.visible := by
  induction hmoved with
  | here => rfl
  | next _ ih => exact ih
  | previous _ ih => exact ih

/-- The outcome of an operation tells what became of the popup. -/
def Reports (completer : Completer σ) (reaction : Reaction σ) : Prop :=
  Told completer.popup reaction.completer.popup fun status =>
    Editor.statusAfter status reaction.completer.popup reaction.outcome

theorem reports_idle (completer : Completer σ) (checked : List Text) :
    Reports completer { completer, checked } :=
  .kept rfl fun _ => rfl

theorem dismiss_reports (completer : Completer σ) : Reports completer completer.dismiss := by
  unfold dismiss
  split
  · exact .closed .blank rfl (by simp) fun _ => rfl
  · exact completer.reports_idle []

theorem moveSelection_reports (completer : Completer σ) (delta : Int) :
    Reports completer (completer.moveSelection delta) := by
  unfold moveSelection
  split
  · exact completer.reports_idle []
  · rename_i hopen
    have hvisible : completer.popup.visible = true := by
      simp only [Bool.or_eq_true, not_or] at hopen
      simpa using hopen.1.2
    refine .counted ?_ fun _ => rfl
    refine (Selects.visible (.repeat ?_ completer.popup delta.natAbs)).trans hvisible
    split
    · exact Or.inl rfl
    · exact Or.inr rfl

variable [Surface σ]

/-- A candidate was chosen and the document refuses it. -/
def Refuses (completer : Completer σ) (choice? : Option Candidate) : Prop :=
  ∃ candidate, choice? = some candidate ∧ (completer.insertWord candidate.insertion).2 ≠ none

theorem not_refuses_none (completer : Completer σ) : ¬completer.Refuses none := by
  simp [Refuses]

/-- A refused completion closes the popup and reports nothing. -/
theorem CarriesOut.of_refuses {completer : Completer σ} {choice? : Option Candidate}
    {reaction : Reaction σ} (hcarries : CarriesOut completer choice? reaction)
    (hrefuses : completer.Refuses choice?) :
    reaction.outcome = .nothing ∧ reaction.completer.popup.visible = false := by
  obtain ⟨candidate, rfl, hfault⟩ := hrefuses
  have houtcome := hcarries.outcome_of_some
  rw [if_neg (by simpa using hfault)] at houtcome
  refine ⟨houtcome, ?_⟩
  cases hcarries with
  | completed _ _ => rfl

theorem complete_reports {completer : Completer σ} {candidate : Candidate}
    (htaken : ¬completer.Refuses (some candidate)) (checked : List Text) :
    Reports completer (completer.complete candidate.insertion checked) := by
  have hfault : (completer.insertWord candidate.insertion).2 = none := by
    simpa [Refuses] using htaken
  have hcarries : CarriesOut completer (some candidate) _ := .completed candidate checked
  have houtcome := hcarries.outcome_of_some
  rw [hfault] at houtcome
  refine .closed (.inserted candidate.insertion) rfl (by simp) fun status => ?_
  rw [houtcome]
  rfl

theorem offer_reports (completer : Completer σ) (found : Lookup) :
    Reports completer (completer.offer found) := by
  unfold offer
  cases hvisible : completer.popup.visible with
  | true => exact .counted hvisible fun _ => rfl
  | false =>
      cases completer.popupAnchor? with
      | none => exact completer.reports_idle _
      | some anchor =>
          exact .counted (by simp [Popup.populate, Popup.openAt, hvisible]) fun _ => rfl

theorem trigger_reports {completer : Completer σ}
    (htaken : ¬completer.Refuses completer.triggered?) : Reports completer completer.trigger := by
  unfold triggered? at htaken
  unfold trigger
  cases hattached : completer.attached with
  | false => exact completer.reports_idle []
  | true =>
      rw [if_pos hattached] at htaken
      dsimp only
      cases hfound : completer.lookup.candidates with
      | nil => exact completer.reports_idle _
      | cons first rest =>
          rw [hfound] at htaken
          cases rest with
          | nil => exact complete_reports htaken _
          | cons second rest => exact completer.offer_reports _

theorem refresh_reports (completer : Completer σ) : Reports completer completer.refresh := by
  unfold refresh
  split
  · exact completer.reports_idle []
  · rename_i hopen
    simp only [Bool.or_eq_true, Bool.not_eq_true', not_or, Bool.not_eq_false] at hopen
    dsimp only
    split
    · exact .closed .blank rfl (by simp) fun _ => rfl
    · exact .counted hopen.2 fun _ => rfl

theorem refreshIfStale_reports (completer : Completer σ) :
    Reports completer completer.refreshIfStale := by
  unfold refreshIfStale
  split
  · exact completer.refresh_reports
  · exact completer.reports_idle []

theorem accept_reports {completer : Completer σ}
    (htaken : ¬completer.Refuses completer.accepted?) : Reports completer completer.accept := by
  unfold accepted? at htaken
  unfold accept
  cases hattached : completer.attached with
  | false => exact completer.reports_idle []
  | true =>
      cases hvisible : completer.popup.visible with
      | false => exact completer.reports_idle []
      | true =>
          rw [if_pos (by simp [hattached, hvisible])] at htaken
          cases hselected : completer.popup.selected? with
          | none => exact completer.reports_idle []
          | some candidate => exact complete_reports (hselected ▸ htaken) []

theorem acceptRow_reports {completer : Completer σ} {row : Nat}
    (htaken : ¬completer.Refuses (completer.choice? (.acceptRow row))) :
    Reports completer (completer.acceptRow row) := by
  unfold choice? at htaken
  dsimp only at htaken
  by_cases hopen : completer.attached = true ∧ completer.popup.visible = true
  · rw [if_pos (by simpa using hopen)] at htaken
    rw [acceptRow_eq hopen.1 hopen.2]
    cases hrow : completer.popup.rows[row]? with
    | none => exact completer.reports_idle []
    | some candidate => exact complete_reports (hrow ▸ htaken) []
  · unfold acceptRow
    rw [if_neg (by simpa using hopen)]
    exact completer.reports_idle []

theorem press_reports {completer : Completer σ} {input : KeyInput}
    (hpress : input.phase = .press) (htaken : ¬completer.Refuses (completer.choice? (.key input))) :
    Reports completer (completer.press input).reaction := by
  unfold choice? at htaken
  dsimp only at htaken
  rw [if_neg (by simp [hpress])] at htaken
  unfold press
  have hidle := completer.reports_idle []
  cases hshortcut : input.isShortcut with
  | true => exact trigger_reports (by simpa [hshortcut] using htaken)
  | false =>
      cases hkey : input.key with
      | tab => exact trigger_reports (by simpa [hkey] using htaken)
      | enter =>
          cases completer.popup.visible with
          | true => exact accept_reports (by simpa [hshortcut, hkey] using htaken)
          | false => exact hidle
      | escape =>
          cases completer.popup.visible with
          | true => exact completer.dismiss_reports
          | false => exact hidle
      | down =>
          cases completer.popup.visible with
          | true => exact completer.moveSelection_reports 1
          | false => exact hidle
      | up =>
          cases completer.popup.visible with
          | true => exact completer.moveSelection_reports (-1)
          | false => exact hidle
      | left => exact completer.dismiss_reports
      | right => exact completer.dismiss_reports
      | _ => exact hidle

theorem release_reports (completer : Completer σ) (input : KeyInput) :
    Reports completer (completer.release input).reaction := by
  unfold release
  split
  · exact completer.reports_idle []
  · exact completer.reports_idle []
  · exact completer.refreshIfStale_reports

/-- A key tells what became of the popup unless it completes a word and the
document refuses it. -/
theorem dispatch_reports {completer : Completer σ} {input : KeyInput}
    (htaken : ¬completer.Refuses (completer.choice? (.key input))) :
    Reports completer (completer.dispatch input).reaction := by
  unfold dispatch
  cases completer.attached with
  | false => exact completer.reports_idle []
  | true =>
      cases hphase : input.phase with
      | press => exact press_reports hphase htaken
      | release => exact completer.release_reports input

/-- A key that comes up is no matter to a popup that is not shown. -/
theorem dispatch_release_of_hidden {completer : Completer σ}
    (hhidden : completer.popup.visible = false) (input : KeyInput) :
    (completer.dispatch { input with phase := .release }).reaction = { completer } := by
  cases hattached : completer.attached with
  | false => simp [dispatch, hattached]
  | true =>
      rw [completer.dispatch_release input hattached fun _ => hhidden]
      simp [refreshIfStale, hhidden]

end Completer

namespace Editor

variable {typing : Typing} {editor : Editor} {event : KeyEvent} {action : Action}

/-- The status after an action that found the given one. -/
def statusFrom (typing : Typing) (editor : Editor) (action : Action) (status : Status) : Status :=
  (next typing { editor with status } action).status

/-- The status line stays as it is, whatever it says. -/
def LeavesStatus (typing : Typing) (editor : Editor) (action : Action) : Prop :=
  ∀ status, editor.statusFrom typing action status = status

/-- The row of the popup that a mouse event double-clicks. -/
def clickedRow? (editor : Editor) (event : MouseEvent) (time : Nat) : Option Nat :=
  (trackClick editor.click event time).2.bind fun (x, y) =>
    editor.view.rowAt? editor.completer.popup editor.screen x y

/-- The candidate that an action asks to insert. -/
def chosen? (editor : Editor) : Action → Option Candidate
  | .event (.key event) =>
    if isQuit event then none else editor.completer.choice? (.key event.toInput)
  | .event (.mouse event time) =>
    (editor.clickedRow? event time).bind fun row => editor.completer.choice? (.acceptRow row)
  | _ => none

/-- What closes a popup and reports no outcome: a resize, and a completion that
the document refuses. -/
def DropsPopup (editor : Editor) : Action → Prop
  | .event (.resize _ _) => True
  | action => editor.completer.Refuses (editor.chosen? action)

/-- The editor between a press and its release. -/
def pressed (typing : Typing) (editor : Editor) (event : KeyEvent) : Editor :=
  let dispatch := editor.completer.dispatch event.toInput
  if dispatch.consumed || event.toInput.isShortcut then editor.note dispatch.reaction
  else typeKey typing (editor.note dispatch.reaction) event

def released (editor : Editor) (input : KeyInput) : Editor :=
  editor.note (editor.completer.dispatch { input with phase := .release }).reaction

theorem released_of_hidden (hhidden : editor.completer.popup.visible = false)
    (input : KeyInput) : editor.released input = editor := by
  unfold released
  rw [Completer.dispatch_release_of_hidden hhidden]
  rfl

/-- The text that a key is given to is no matter to the popup. -/
theorem pressed_popup (typing : Typing) (editor : Editor) (event : KeyEvent) :
    (editor.pressed typing event).completer.popup =
      (editor.completer.dispatch event.toInput).reaction.completer.popup := by
  unfold pressed
  dsimp only
  split <;> rfl

theorem pressed_of_status (typing : Typing) (editor : Editor) (event : KeyEvent)
    (status : Status) :
    pressed typing { editor with status } event =
      { editor.pressed typing event with
        status := statusAfter status (editor.pressed typing event).completer.popup
          (editor.completer.dispatch event.toInput).reaction.outcome } := by
  rw [pressed_popup]
  unfold pressed
  dsimp only
  split <;> rfl

theorem handleKeyWith_of_press (typing : Typing) (editor : Editor) (hquit : isQuit event = false)
    (hphase : event.toInput.phase = .press) :
    handleKeyWith typing editor event =
      if editor.synthesizeRelease then (editor.pressed typing event).released event.toInput
      else editor.pressed typing event := by
  have hsynthesize : (editor.pressed typing event).synthesizeRelease =
      editor.synthesizeRelease := by
    unfold pressed
    dsimp only
    split <;> rfl
  rw [← hsynthesize]
  unfold handleKeyWith
  rw [if_neg (by simp [hquit])]
  dsimp only
  rw [hphase]
  rfl

/-- A completion that the document refuses leaves no popup and says nothing. -/
theorem handleKeyWith_of_refuses (typing : Typing) (editor : Editor)
    (hquit : isQuit event = false)
    (hrefuses : editor.completer.Refuses (editor.completer.choice? (.key event.toInput))) :
    (handleKeyWith typing editor event).completer.popup.visible = false ∧
      (handleKeyWith typing editor event).status = editor.status := by
  obtain ⟨houtcome, hhidden⟩ :=
    (editor.completer.dispatch_carriesOut event.toInput).of_refuses hrefuses
  cases hphase : event.toInput.phase with
  | release =>
      have hnone : editor.completer.choice? (.key event.toInput) = none := by
        simp [Completer.choice?, hphase]
      exact absurd (hnone ▸ hrefuses) editor.completer.not_refuses_none
  | press =>
      have hpopup : (editor.pressed typing event).completer.popup.visible = false := by
        rw [pressed_popup]
        exact hhidden
      have hstatus : (editor.pressed typing event).status = editor.status := by
        have hpressed := congrArg Editor.status
          (pressed_of_status typing editor event editor.status)
        rwa [houtcome] at hpressed
      rw [handleKeyWith_of_press typing editor hquit hphase, released_of_hidden hpopup, ite_self]
      exact ⟨hpopup, hstatus⟩

/-- Any other key tells what became of the popup. -/
theorem handleKeyWith_told (typing : Typing) {editor : Editor} (hquit : isQuit event = false)
    (htaken : ¬editor.completer.Refuses (editor.completer.choice? (.key event.toInput))) :
    Told editor.completer.popup (handleKeyWith typing editor event).completer.popup
      fun status => (handleKeyWith typing { editor with status } event).status := by
  have hfirst := Completer.dispatch_reports htaken
  cases hphase : event.toInput.phase with
  | release =>
      simp only [handleKeyWith, hquit, hphase, note, Bool.false_eq_true, if_false]
      exact hfirst
  | press =>
      simp only [fun editor => handleKeyWith_of_press typing editor hquit hphase,
        pressed_of_status]
      unfold Completer.Reports at hfirst
      rw [← pressed_popup typing] at hfirst
      split
      · refine hfirst.comp (Completer.dispatch_reports ?_)
        exact (editor.pressed typing event).completer.not_refuses_none
      · exact hfirst

theorem handleMouse_eq (editor : Editor) (event : MouseEvent) (time : Nat) :
    editor.handleMouse event time =
      { (editor.clickedRow? event time).elim editor fun row =>
          editor.note (editor.completer.acceptRow row) with
        click := (trackClick editor.click event time).1 } := by
  unfold handleMouse clickedRow?
  cases trackClick editor.click event time with
  | mk click cell? =>
      cases cell? with
      | none => rfl
      | some cell =>
          dsimp only [Option.bind_some]
          cases editor.view.rowAt? editor.completer.popup editor.screen cell.1 cell.2 with
          | none => rfl
          | some row => rfl

theorem chosen?_of_quit (editor : Editor) (hquit : isQuit event = true) :
    editor.chosen? (.event (.key event)) = none :=
  if_pos hquit

theorem chosen?_of_key (editor : Editor) (hquit : isQuit event = false) :
    editor.chosen? (.event (.key event)) = editor.completer.choice? (.key event.toInput) :=
  if_neg (by simp [hquit])

/-- What drops a popup leaves the status line alone. -/
theorem next_of_dropsPopup (typing : Typing) (hdrops : editor.DropsPopup action) :
    (editor.next typing action).completer.popup.visible = false ∧
      editor.LeavesStatus typing action := by
  have hnever := editor.completer.not_refuses_none
  cases action with
  | draw width height => exact absurd hdrops hnever
  | event event =>
      cases event with
      | other => exact absurd hdrops hnever
      | resize width height => exact ⟨rfl, fun _ => rfl⟩
      | key event =>
          have hrefuses : editor.completer.Refuses (editor.chosen? (.event (.key event))) := hdrops
          cases hquit : isQuit event with
          | true =>
              rw [chosen?_of_quit editor hquit] at hrefuses
              exact absurd hrefuses hnever
          | false =>
              rw [chosen?_of_key editor hquit] at hrefuses
              exact ⟨(handleKeyWith_of_refuses typing editor hquit hrefuses).1, fun status =>
                (handleKeyWith_of_refuses typing { editor with status } hquit hrefuses).2⟩
      | mouse event time =>
          obtain ⟨candidate, hchosen, hfault⟩ := hdrops
          obtain ⟨row, hrow, hchoice⟩ := Option.bind_eq_some_iff.1 hchosen
          obtain ⟨houtcome, hhidden⟩ :=
            (editor.completer.acceptRow_carriesOut row).of_refuses ⟨candidate, hchoice, hfault⟩
          constructor
          · change (editor.handleMouse event time).completer.popup.visible = false
            rw [handleMouse_eq, hrow]
            exact hhidden
          · intro status
            change (handleMouse { editor with status } event time).status = status
            have hrow' : clickedRow? { editor with status } event time = some row := hrow
            rw [handleMouse_eq, hrow']
            exact congrArg (statusAfter status _) houtcome

/-- Every other action tells what became of the popup. -/
theorem next_told (typing : Typing) (hkeeps : ¬editor.DropsPopup action) :
    Told editor.completer.popup (editor.next typing action).completer.popup
      (editor.statusFrom typing action) := by
  cases action with
  | draw width height => exact .kept rfl fun _ => rfl
  | event event =>
      cases event with
      | other => exact .kept rfl fun _ => rfl
      | resize width height => exact absurd trivial hkeeps
      | key event =>
          have htaken : ¬editor.completer.Refuses (editor.chosen? (.event (.key event))) := hkeeps
          cases hquit : isQuit event with
          | true =>
              have hsame : ∀ editor : Editor, handleKeyWith typing editor event =
                  { editor with quit := true } := fun _ => if_pos hquit
              refine .kept ?_ fun status => ?_
              · exact congrArg (fun editor => editor.completer.popup) (hsame editor)
              · exact congrArg Editor.status (hsame { editor with status })
          | false =>
              rw [chosen?_of_key editor hquit] at htaken
              exact handleKeyWith_told typing hquit htaken
      | mouse event time =>
          change Told _ (editor.handleMouse event time).completer.popup
            fun status => (handleMouse { editor with status } event time).status
          have htaken : ¬editor.completer.Refuses
              ((editor.clickedRow? event time).bind fun row =>
                editor.completer.choice? (.acceptRow row)) := hkeeps
          have hsame : ∀ status, clickedRow? { editor with status } event time =
              editor.clickedRow? event time := fun _ => rfl
          simp only [handleMouse_eq, hsame]
          cases hrow : editor.clickedRow? event time with
          | none => exact .kept rfl fun _ => rfl
          | some row =>
              rw [hrow] at htaken
              exact Completer.acceptRow_reports htaken

/-- The status line counts rows of a popup that an action has dropped, and no
action since has set it. -/
inductive CountsDropped (typing : Typing) (start : Editor) : List Action → Nat → Prop where
  | dropped (actions : List Action) (action : Action) :
      (start.run typing actions).completer.popup.visible = true →
      (start.run typing actions).DropsPopup action →
      CountsDropped typing start (actions ++ [action])
        (start.run typing actions).completer.popup.rows.length
  | left (actions : List Action) (action : Action) {count : Nat} :
      CountsDropped typing start actions count →
      (start.run typing actions).LeavesStatus typing action →
      CountsDropped typing start (actions ++ [action]) count

theorem not_countsDropped_nil (typing : Typing) (start : Editor) (count : Nat) :
    ¬CountsDropped typing start [] count := by
  intro hcounts
  generalize hnil : ([] : List Action) = actions at hcounts
  cases hcounts with
  | dropped actions action _ _ => simp at hnil
  | left actions action _ _ => simp at hnil

theorem countsDropped_concat {start : Editor} {actions : List Action} {count : Nat} :
    CountsDropped typing start (actions ++ [action]) count ↔
      (start.run typing actions).completer.popup.visible = true ∧
          (start.run typing actions).DropsPopup action ∧
          (start.run typing actions).completer.popup.rows.length = count ∨
        CountsDropped typing start actions count ∧
          (start.run typing actions).LeavesStatus typing action := by
  constructor
  · intro hcounts
    generalize hall : actions ++ [action] = all at hcounts
    cases hcounts with
    | dropped before last hvisible hdrops =>
        obtain ⟨rfl, hlast⟩ := List.append_inj' hall rfl
        obtain rfl := List.singleton_inj.1 hlast
        exact Or.inl ⟨hvisible, hdrops, rfl⟩
    | left before last hcounts hleaves =>
        obtain ⟨rfl, hlast⟩ := List.append_inj' hall rfl
        obtain rfl := List.singleton_inj.1 hlast
        exact Or.inr ⟨hcounts, hleaves⟩
  · rintro (⟨hvisible, hdrops, rfl⟩ | ⟨hcounts, hleaves⟩)
    · exact .dropped actions action hvisible hdrops
    · exact .left actions action hcounts hleaves

/-- A count in the status line is that of the open popup or of one that was
dropped, and then no popup is open. -/
structure StatusAgrees (typing : Typing) (start : Editor) (actions : List Action)
    (count : Nat) : Prop where
  status_iff :
    (start.run typing actions).status = .candidates count ↔
      (start.run typing actions).completer.popup.visible = true ∧
          (start.run typing actions).completer.popup.rows.length = count ∨
        CountsDropped typing start actions count
  hidden : CountsDropped typing start actions count →
    (start.run typing actions).completer.popup.visible = false

theorem statusAgrees_nil (typing : Typing) {start : Editor}
    (hhidden : start.completer.popup.visible = false) (hblank : start.status = .blank)
    (count : Nat) : StatusAgrees typing start [] count where
  status_iff := by simp [run, hhidden, hblank, not_countsDropped_nil]
  hidden := fun _ => hhidden

/-- One action keeps the agreement. -/
theorem StatusAgrees.next {start : Editor} {actions : List Action} {count : Nat}
    (hagrees : StatusAgrees typing start actions count) (action : Action) :
    StatusAgrees typing start (actions ++ [action]) count := by
  obtain ⟨hstatus, hhidden⟩ := hagrees
  by_cases hdrops : (start.run typing actions).DropsPopup action
  · -- The status stays, and what it counted is dropped if it was not before.
    obtain ⟨hclosed, hleaves⟩ := next_of_dropsPopup typing hdrops
    have hsame : ((start.run typing actions).next typing action).status =
      (start.run typing actions).status := hleaves _
    constructor
    · rw [run_concat, hsame, hstatus, countsDropped_concat, hclosed]
      simp [hdrops, hleaves]
    · intro _
      rw [run_concat]
      exact hclosed
  · have hcounts : CountsDropped typing start (actions ++ [action]) count ↔
        CountsDropped typing start actions count ∧
          (start.run typing actions).LeavesStatus typing action := by
      rw [countsDropped_concat]
      simp [hdrops]
    cases next_told typing hdrops with
    | kept hpopup hleaves =>
        have hsame : ((start.run typing actions).next typing action).status =
          (start.run typing actions).status := hleaves _
        constructor
        · rw [run_concat, hsame, hpopup, hcounts, hstatus]
          simp [LeavesStatus, hleaves]
        · intro hdropped
          rw [run_concat, hpopup]
          exact hhidden (hcounts.1 hdropped).1
    | counted hvisible htell =>
        have hset : ¬(start.run typing actions).LeavesStatus typing action := by
          intro hleaves
          exact nomatch (htell .blank).symm.trans (hleaves .blank)
        have hsame : ((start.run typing actions).next typing action).status = _ := htell _
        constructor
        · rw [run_concat, hsame, hcounts]
          simp [hset, hvisible]
        · intro hdropped
          exact absurd (hcounts.1 hdropped).2 hset
    | closed told hclosed hother htell =>
        have hset : ¬(start.run typing actions).LeavesStatus typing action := by
          intro hleaves
          exact hother 0 ((htell (.candidates 0)).symm.trans (hleaves (.candidates 0)))
        have hsame : ((start.run typing actions).next typing action).status = told := htell _
        constructor
        · rw [run_concat, hsame, hcounts]
          simp [hset, hclosed, hother]
        · intro hdropped
          exact absurd (hcounts.1 hdropped).2 hset

theorem run_statusAgrees (typing : Typing) {start : Editor}
    (hhidden : start.completer.popup.visible = false) (hblank : start.status = .blank)
    (actions : List Action) (count : Nat) : StatusAgrees typing start actions count := by
  induction actions using List.reverseRecOn with
  | nil => exact statusAgrees_nil typing hhidden hblank count
  | append_singleton actions action ih => exact ih.next action

/-- Whatever happens to an editor, its status line reads as a number of
candidates exactly if the popup is open and has so many rows, or had so many
when it was dropped by a resize or a refused completion and no action since has
set the line. -/
theorem run_status_text_iff (typing : Typing) (text : Text) (vocabulary : Vocabulary)
    (settings : Settings) (synthesizeRelease : Bool) (actions : List Action) (count : Nat) :
    let start : Editor := { new text vocabulary settings with synthesizeRelease }
    let editor := start.run typing actions
    (editor.status.text = Text.ofNat count ++ " candidates".toList ↔
        editor.completer.popup.visible = true ∧ editor.completer.popup.rows.length = count ∨
          CountsDropped typing start actions count) ∧
      (CountsDropped typing start actions count → editor.completer.popup.visible = false) := by
  intro start editor
  have hagrees : StatusAgrees typing start actions count :=
    run_statusAgrees typing rfl rfl actions count
  rw [Status.text_eq_candidates_iff]
  exact ⟨hagrees.status_iff, hagrees.hidden⟩

/-- With the caret before the word there is nothing to complete, so enter closes
the popup and inserts nothing. -/
theorem run_status_text_iff_refused :
    let typing : Typing := fun area event => (area.input event).1
    let vocabulary : Vocabulary :=
      [⟨.objectProperty, "menu#hasTopping".toList⟩, ⟨.dataProperty, "menu#hasPrice".toList⟩]
    let start : Editor := { new "h".toList vocabulary {} with synthesizeRelease := true }
    let actions : List Action :=
      [.draw 80 24, .event (.key { code := .tab }), .event (.key { code := .home }),
        .event (.key { code := .enter })]
    CountsDropped typing start actions 2 ∧
      (start.run typing actions).completer.popup.visible = false := by
  intro typing vocabulary start actions
  have hiff := (run_status_text_iff typing "h".toList vocabulary {} true actions 2).1
  rcases hiff.1 (by decide) with hopen | hcounts
  · exact absurd hopen.1 (by decide)
  · exact ⟨hcounts, by decide⟩

/-- A resize closes the popup, and the status line goes on counting its rows. -/
theorem status_counts_after_resize :
    let typing : Typing := fun area event => (area.input event).1
    let vocabulary : Vocabulary :=
      [⟨.objectProperty, "menu#hasTopping".toList⟩, ⟨.dataProperty, "menu#hasPrice".toList⟩]
    let opened := (new "h".toList vocabulary {}).run typing
      [.draw 80 24, .event (.key { code := .tab })]
    let resized := opened.next typing (.event (.resize 100 30))
    opened.completer.popup.visible = true ∧ resized.completer.popup.visible = false ∧
      resized.status.text = "2 candidates".toList := by
  decide

end Editor

end ClassExpr
