/-
What holds of the popup of a completer at every moment of its life.

The popup is shown exactly while it has a list and a place, its list fits and
its selection points at a row.  A popup alone does not keep this: filling a
hidden one would give it a list.  The order in which a completer calls it
does.
-/
import Mathlib.Data.List.Induction
import ClassExpr.Document.Buffer
import ClassExpr.Proofs.CompleterRun

namespace ClassExpr

/-- The selection points at a row, or at the place of the first row of an
empty list. -/
def PopupSession.InRange (session : PopupSession) : Prop :=
  session.index < session.rows.length ∨ session.rows = [] ∧ session.index = 0

namespace PopupSession

theorem InRange.selectNext {session : PopupSession} (hrange : session.InRange) :
    session.selectNext.InRange := by
  unfold PopupSession.selectNext
  split
  · exact hrange
  · rename_i hrows
    have hpos : 0 < session.rows.length := by
      simpa [List.isEmpty_iff, List.length_pos_iff] using hrows
    exact Or.inl (Nat.mod_lt _ hpos)

theorem InRange.selectPrevious {session : PopupSession} (hrange : session.InRange) :
    session.selectPrevious.InRange := by
  unfold PopupSession.selectPrevious
  split
  · exact hrange
  · rename_i hrows
    have hpos : 0 < session.rows.length := by
      simpa [List.isEmpty_iff, List.length_pos_iff] using hrows
    refine Or.inl ?_
    rcases hrange with hindex | ⟨hnil, _⟩
    · dsimp only
      split <;> omega
    · simp [hnil] at hrows

theorem selectNext_eq (session : PopupSession) :
    ∃ index, session.selectNext = { session with index } := by
  unfold selectNext
  split
  · exact ⟨session.index, rfl⟩
  · exact ⟨_, rfl⟩

theorem selectPrevious_eq (session : PopupSession) :
    ∃ index, session.selectPrevious = { session with index } := by
  unfold selectPrevious
  split
  · exact ⟨session.index, rfl⟩
  · exact ⟨_, rfl⟩

end PopupSession

namespace Popup

/-- The parts of a popup agree with each other. -/
structure Coherent (popup : Popup) : Prop where
  session_iff : popup.visible = true ↔ popup.session.isSome = true
  anchor_iff : popup.visible = true ↔ popup.anchor.isSome = true
  probed : ∀ session ∈ popup.session, session.probed.isSome = true
  rows_length_le : popup.rows.length ≤ popup.maxEntries
  index_inRange : ∀ session ∈ popup.session, session.InRange

theorem coherent_of_closed {popup : Popup} (hvisible : popup.visible = false)
    (hanchor : popup.anchor = none) (hsession : popup.session = none) : popup.Coherent where
  session_iff := by simp [hvisible, hsession]
  anchor_iff := by simp [hvisible, hanchor]
  probed := by simp [hsession]
  rows_length_le := by simp [rows, hsession]
  index_inRange := by simp [hsession]

/-- Filling an open popup that has a place and noted a document. -/
theorem coherent_populate {popup : Popup} {session : PopupSession}
    (hvisible : popup.visible = true) (hanchor : popup.anchor.isSome = true)
    (hsession : popup.session = some session) (hprobed : session.probed.isSome = true)
    (candidates : List Candidate) : (popup.populate candidates).Coherent where
  session_iff := by simp [populate, hvisible]
  anchor_iff := by simp [populate, hvisible, hanchor]
  probed := by simp [populate, hsession, hprobed]
  rows_length_le := List.length_take_le _ _
  index_inRange := by
    simp only [populate, Option.mem_def, Option.some.injEq, forall_eq']
    cases htake : candidates.take popup.maxEntries with
    | nil => exact Or.inr ⟨rfl, rfl⟩
    | cons candidate rest => exact Or.inl (by simp)

/-- Another selection among the same rows. -/
theorem Coherent.mapSession {popup : Popup} (hpopup : popup.Coherent)
    {select : PopupSession → PopupSession}
    (hselect : ∀ session, ∃ index, select session = { session with index })
    (hrange : ∀ session, session.InRange → (select session).InRange) :
    Coherent { popup with session := popup.session.map select } := by
  obtain ⟨hsession, hanchor, hprobed, hlength, hindex⟩ := hpopup
  cases hcurrent : popup.session with
  | none =>
      rw [rows, hcurrent] at hlength
      rw [hcurrent] at hsession
      exact ⟨hsession, hanchor, by simp, hlength, by simp⟩
  | some session =>
      obtain ⟨index, hmoved⟩ := hselect session
      constructor
      · simpa [hcurrent] using hsession
      · exact hanchor
      · simpa [hmoved] using hprobed session hcurrent
      · simpa [rows, hmoved, hcurrent] using hlength
      · simpa using hrange session (hindex session hcurrent)

end Popup

namespace Completer

variable {σ : Type}

/-- Moving the selection keeps the popup coherent and everything else in
place. -/
theorem Selects.coherent {popup moved : Popup} (hmoved : Selects popup moved)
    (hpopup : popup.Coherent) :
    moved.Coherent ∧ moved.visible = popup.visible ∧ moved.anchor = popup.anchor ∧
      moved.size = popup.size ∧ moved.maxEntries = popup.maxEntries ∧
      moved.owner = popup.owner := by
  induction hmoved with
  | here => exact ⟨hpopup, rfl, rfl, rfl, rfl, rfl⟩
  | next _ ih =>
      obtain ⟨hcoherent, hframe⟩ := ih
      exact ⟨hcoherent.mapSession PopupSession.selectNext_eq
        fun _ => PopupSession.InRange.selectNext, hframe⟩
  | previous _ ih =>
      obtain ⟨hcoherent, hframe⟩ := ih
      exact ⟨hcoherent.mapSession PopupSession.selectPrevious_eq
        fun _ => PopupSession.InRange.selectPrevious, hframe⟩

/-- The popup of a completer is coherent, as large as the settings say and
bound to the given window, and a detached completer shows none. -/
structure PopupInvariant (settings : Settings) (owner? : Option Nat)
    (completer : Completer σ) : Prop where
  coherent : completer.popup.Coherent
  attached : completer.popup.visible = true → completer.attached = true
  size : completer.popup.size = ⟨settings.popupWidth, settings.popupHeight⟩
  maxEntries : completer.popup.maxEntries = max 1 settings.maxEntries
  owner : completer.popup.owner = owner?

theorem PopupInvariant.hide {settings : Settings} {owner? : Option Nat}
    {completer : Completer σ} (hinv : completer.PopupInvariant settings owner?) :
    PopupInvariant settings owner? { completer with popup := completer.popup.hide } where
  coherent := Popup.coherent_of_closed rfl rfl rfl
  attached := by simp [Popup.hide]
  size := hinv.size
  maxEntries := hinv.maxEntries
  owner := hinv.owner

theorem popupInvariant_attach (document : σ) (checker : Checker) (source : CandidateSource)
    (settings : Settings) :
    (attach document checker source settings).PopupInvariant settings none where
  coherent := Popup.coherent_of_closed rfl rfl rfl
  attached := fun _ => rfl
  size := rfl
  maxEntries := Nat.max_comm _ _
  owner := rfl

variable [Surface σ]

/-- Inserting a word touches nothing but the document. -/
theorem insertWord_eq (completer : Completer σ) (word : Text) :
    ∃ document, (completer.insertWord word).1 = { completer with document } := by
  unfold insertWord
  split
  · exact ⟨completer.document, rfl⟩
  · exact ⟨completer.document, rfl⟩
  · exact ⟨_, rfl⟩

/-- A completion touches the document and closes the popup. -/
theorem complete_eq (completer : Completer σ) (word : Text) (checked : List Text) :
    ∃ document, (completer.complete word checked).completer =
      { completer with document, popup := completer.popup.hide } := by
  obtain ⟨document, hdocument⟩ := completer.insertWord_eq word
  refine ⟨document, ?_⟩
  unfold complete
  dsimp only
  rw [hdocument]

namespace PopupInvariant

variable {settings : Settings} {owner? : Option Nat} {completer : Completer σ}

theorem effect (hinv : completer.PopupInvariant settings owner?) {reaction : Reaction σ}
    (heffect : Effect completer reaction) :
    reaction.completer.PopupInvariant settings owner? := by
  cases heffect with
  | idle _ _ => exact hinv
  | hidden _ _ => exact hinv.hide
  | filled hattached hvisible =>
      obtain ⟨session, hsession⟩ :=
        Option.isSome_iff_exists.1 (hinv.coherent.session_iff.1 hvisible)
      have hanchor := hinv.coherent.anchor_iff.1 hvisible
      refine ⟨?_, fun _ => hattached, hinv.size, hinv.maxEntries, hinv.owner⟩
      have hnoted : (completer.popup.noteProbe (Surface.text completer.document)).session =
          some { session with probed := some (Surface.text completer.document) } := by
        simp [Popup.noteProbe, hsession]
      exact @Popup.coherent_populate (completer.popup.noteProbe _) _ hvisible hanchor hnoted rfl _
  | opened anchor hattached hvisible _ =>
      -- Opening an open popup would keep its old list, but the effect opens a hidden one.
      refine ⟨?_, fun _ => hattached, ?_, ?_, ?_⟩
      · simp only [Popup.openAt, hvisible, Bool.false_eq_true, if_false]
        exact Popup.coherent_populate rfl rfl rfl rfl _
      · simpa [Popup.populate, Popup.openAt, hvisible] using hinv.size
      · simpa [Popup.populate, Popup.openAt, hvisible] using hinv.maxEntries
      · simpa [Popup.populate, Popup.openAt, hvisible] using hinv.owner
  | completed candidate checked _ _ =>
      obtain ⟨document, hdocument⟩ := completer.complete_eq candidate.insertion checked
      rw [hdocument]
      exact ⟨hinv.hide.coherent, hinv.hide.attached, hinv.size, hinv.maxEntries, hinv.owner⟩
  | moved popup hmoved =>
      obtain ⟨hcoherent, hvisible, _, hsize, hmax, howner⟩ := hmoved.coherent hinv.coherent
      refine ⟨hcoherent, ?_, hsize.trans hinv.size, hmax.trans hinv.maxEntries,
        howner.trans hinv.owner⟩
      intro hshown
      exact hinv.attached (hvisible.symm.trans hshown)

/-- One event keeps the invariant. -/
theorem next (hinv : completer.PopupInvariant settings owner?) (event : Event σ) :
    (completer.next event).PopupInvariant settings (event.owner?.or owner?) := by
  cases event with
  | operation operation => exact hinv.effect (completer.perform_effect operation)
  | insertWord word =>
      obtain ⟨document, hdocument⟩ := completer.insertWord_eq word
      change PopupInvariant settings owner? (completer.insertWord word).1
      rw [hdocument]
      exact ⟨hinv.coherent, hinv.attached, hinv.size, hinv.maxEntries, hinv.owner⟩
  | moveToWindow owner =>
      refine ⟨Popup.coherent_of_closed rfl rfl rfl, fun hvisible => ?_, hinv.size, ?_, rfl⟩
      · change false = true at hvisible
        contradiction
      · change max completer.popup.maxEntries 1 = max 1 settings.maxEntries
        rw [hinv.maxEntries]
        omega
  | detach =>
      change PopupInvariant settings owner? completer.detach
      unfold detach
      split
      · exact ⟨hinv.hide.coherent, fun hvisible => absurd hvisible (by simp [Popup.hide]),
          hinv.size, hinv.maxEntries, hinv.owner⟩
      · exact hinv
  | change document checker source =>
      exact ⟨hinv.coherent, hinv.attached, hinv.size, hinv.maxEntries, hinv.owner⟩

end PopupInvariant

theorem run_popupInvariant (document : σ) (checker : Checker) (source : CandidateSource)
    (settings : Settings) (events : List (Event σ)) :
    ((attach document checker source settings).run events).PopupInvariant settings
      (lastOwner? events) := by
  induction events using List.reverseRecOn with
  | nil => exact popupInvariant_attach document checker source settings
  | append_singleton events event ih =>
      rw [run_concat, lastOwner?_concat]
      exact ih.next event

theorem PopupInvariant.effect_anchor {settings : Settings} {owner? : Option Nat}
    {completer : Completer σ} (hinv : completer.PopupInvariant settings owner?)
    {reaction : Reaction σ} (heffect : Effect completer reaction)
    (hbefore : completer.popup.visible = true)
    (hafter : reaction.completer.popup.visible = true) :
    reaction.completer.popup.anchor = completer.popup.anchor := by
  cases heffect with
  | idle _ _ => rfl
  | hidden _ _ => exact absurd hafter (by simp [Popup.hide])
  | filled _ _ => rfl
  | opened _ _ hvisible _ => exact absurd hbefore (by simp [hvisible])
  | completed candidate checked _ _ =>
      obtain ⟨document, hdocument⟩ := completer.complete_eq candidate.insertion checked
      rw [hdocument] at hafter
      exact absurd hafter (by simp [Popup.hide])
  | moved popup hmoved =>
      obtain ⟨_, _, hanchor, _⟩ := hmoved.coherent hinv.coherent
      exact hanchor

/-- A popup that is still open after an event has not moved. -/
theorem PopupInvariant.next_anchor {settings : Settings} {owner? : Option Nat}
    {completer : Completer σ} (hinv : completer.PopupInvariant settings owner?)
    (event : Event σ) (hbefore : completer.popup.visible = true)
    (hafter : (completer.next event).popup.visible = true) :
    (completer.next event).popup.anchor = completer.popup.anchor := by
  cases event with
  | operation operation =>
      exact hinv.effect_anchor (completer.perform_effect operation) hbefore hafter
  | insertWord word =>
      obtain ⟨document, hdocument⟩ := completer.insertWord_eq word
      change (completer.insertWord word).1.popup.anchor = completer.popup.anchor
      rw [hdocument]
  | moveToWindow owner =>
      change false = true at hafter
      contradiction
  | detach =>
      change completer.detach.popup.visible = true at hafter
      change completer.detach.popup.anchor = completer.popup.anchor
      unfold detach at hafter ⊢
      split at hafter
      · change false = true at hafter
        contradiction
      · rename_i hattached
        rw [if_neg hattached]
  | change document checker source => rfl

/-- While a popup stays open it stays where it is. -/
theorem run_anchor_of_visible {settings : Settings} {owner? : Option Nat}
    {completer : Completer σ} (hinv : completer.PopupInvariant settings owner?)
    (events : List (Event σ))
    (hvisible : ∀ count ≤ events.length,
      (completer.run (events.take count)).popup.visible = true) :
    (completer.run events).popup.anchor = completer.popup.anchor := by
  -- Counts zero and one speak of the first event, all later ones of the rest of the run.
  induction events generalizing completer owner? with
  | nil => rfl
  | cons event rest ih =>
      have hbefore := hvisible 0 (Nat.zero_le _)
      have hafter := hvisible 1 (by simp)
      have hrest : ∀ count ≤ rest.length,
          ((completer.next event).run (rest.take count)).popup.visible = true := by
        intro count hcount
        exact hvisible (count + 1) (by simpa using hcount)
      exact (ih (hinv.next event) hrest).trans (hinv.next_anchor event hbefore hafter)

/-- Whatever happens to a completer, its popup is shown exactly while it has a
list and a place, shows only while the completer is attached, knows the
document of its list, holds no more rows than the settings allow, selects one
of them, has the size of the settings and the window it was given last, and
stays where it is while it is open. -/
theorem run_popup_coherent (document : σ) (checker : Checker) (source : CandidateSource)
    (settings : Settings) (events : List (Event σ)) :
    let start := attach document checker source settings
    (start.run events).PopupInvariant settings (lastOwner? events) ∧
      ∀ before during, events = before ++ during →
        (∀ count ≤ during.length,
          (start.run (before ++ during.take count)).popup.visible = true) →
        (start.run events).popup.anchor = (start.run before).popup.anchor := by
  intro start
  refine ⟨run_popupInvariant document checker source settings events, ?_⟩
  rintro before during rfl hvisible
  have hinv := run_popupInvariant document checker source settings before
  rw [run_append]
  apply run_anchor_of_visible hinv
  intro count hcount
  rw [← run_append]
  exact hvisible count hcount

/-- The list stays in its place while the selection moves and while the
document changes under it. -/
theorem run_popup_coherent_open :
    let checker : Checker := fun _ => .expected { keywords := ["Person".toList, "Pet".toList] }
    let source : CandidateSource := ⟨fun _ _ => [], fun entity => entity.iri⟩
    let start := attach (Buffer.ofText "P".toList) checker source {}
    let opened : List (Event Buffer) := [.operation .trigger]
    let moved : List (Event Buffer) :=
      [.operation (.moveSelection (-1)), .change (Buffer.ofText "not Pe".toList) checker source]
    (start.run opened).popup.visible = true ∧
      (start.run (opened ++ moved)).PopupInvariant {} none ∧
      (start.run (opened ++ moved)).popup.anchor = (start.run opened).popup.anchor := by
  intro checker source start opened moved
  have hvisible : ∀ count ≤ moved.length,
      (start.run (opened ++ moved.take count)).popup.visible = true := by
    intro count hcount
    have hcases : count = 0 ∨ count = 1 ∨ count = 2 := by
      change count ≤ 2 at hcount
      omega
    rcases hcases with rfl | rfl | rfl <;> decide
  obtain ⟨hinv, hanchor⟩ := run_popup_coherent (Buffer.ofText "P".toList) checker source {}
    (opened ++ moved)
  exact ⟨by decide, hinv, hanchor opened moved rfl hvisible⟩

end Completer

end ClassExpr
