/-
How old the list of an open popup can be.

The text reaches the editor on one way and the refresh of the popup on
another.  Still the list of an open popup is always the one of the present
text: it was computed at some moment of the run, and the text has not changed
since.  The cursor may have.
-/
import ClassExpr.Document.Buffer
import ClassExpr.Proofs.EditorRun
import ClassExpr.Proofs.Viability

namespace ClassExpr

/-- The document that the list of a popup was computed for, and its rows. -/
def Popup.listing (popup : Popup) : Option (Option Text × List Candidate) :=
  popup.session.map fun session => (session.probed, session.rows)

theorem Popup.listing_mapSession (popup : Popup) {select : PopupSession → PopupSession}
    (hselect : ∀ session, ∃ index, select session = { session with index }) :
    listing { popup with session := popup.session.map select } = popup.listing := by
  unfold listing
  cases popup.session with
  | none => rfl
  | some session =>
      obtain ⟨index, hindex⟩ := hselect session
      simp [hindex]

theorem Popup.Coherent.listing_eq_none_iff {popup : Popup} (hpopup : popup.Coherent) :
    popup.listing = none ↔ popup.visible = false := by
  have hsession := hpopup.session_iff
  unfold listing
  cases hcurrent : popup.session with
  | none => simpa [hcurrent] using hsession
  | some session => simpa [hcurrent] using hsession

namespace Completer

variable {σ : Type}

theorem Selects.listing {popup moved : Popup} (hmoved : Selects popup moved) :
    moved.listing = popup.listing := by
  induction hmoved with
  | here => rfl
  | next _ ih => exact (Popup.listing_mapSession _ PopupSession.selectNext_eq).trans ih
  | previous _ ih => exact (Popup.listing_mapSession _ PopupSession.selectPrevious_eq).trans ih

/-- The same completer on a plain text, with the caret at an offset. -/
def onText (completer : Completer σ) (text : Text) (caret : Nat) : Completer Buffer :=
  { completer with document := { text, caret } }

variable [Surface σ]

/-- The list of the popup is the one of the document as it is now. -/
def Listed (settings : Settings) (completer : Completer σ) : Prop :=
  completer.popup.listing =
    some (some (Surface.text completer.document),
      completer.lookup.candidates.take (max 1 settings.maxEntries))

variable {settings : Settings} {owner? : Option Nat} {completer : Completer σ}

theorem PopupInvariant.listed_of_filled (hinv : completer.PopupInvariant settings owner?)
    (hvisible : completer.popup.visible = true) :
    Listed settings
      { completer with
        popup := (completer.popup.noteProbe (Surface.text completer.document)).populate
          completer.lookup.candidates } := by
  obtain ⟨session, hsession⟩ :=
    Option.isSome_iff_exists.1 (hinv.coherent.session_iff.1 hvisible)
  have hmax := hinv.maxEntries
  unfold Listed Popup.listing Popup.populate Popup.noteProbe
  simp only [hsession, Option.map_some, Option.getD_some, hmax]
  rfl

/-- An operation that leaves a list leaves the document alone, and the list is
the one that was there before or the one of the document. -/
theorem PopupInvariant.effect_listing (hinv : completer.PopupInvariant settings owner?)
    {reaction : Reaction σ} (heffect : Effect completer reaction) :
    reaction.completer.popup.listing = none ∨
      reaction.completer.document = completer.document ∧
        (reaction.completer.Listed settings ∨
          reaction.completer.popup.listing = completer.popup.listing) := by
  cases heffect with
  | idle _ _ => exact Or.inr ⟨rfl, Or.inr rfl⟩
  | hidden _ _ => exact Or.inl rfl
  | filled _ hvisible => exact Or.inr ⟨rfl, Or.inl (hinv.listed_of_filled hvisible)⟩
  | opened anchor _ hvisible _ =>
      refine Or.inr ⟨rfl, Or.inl ?_⟩
      have hmax := hinv.maxEntries
      unfold Listed Popup.listing Popup.populate Popup.openAt
      simp only [hvisible, Bool.false_eq_true, if_false, hmax]
      rfl
  | completed candidate checked _ _ =>
      obtain ⟨document, hdocument⟩ := completer.complete_eq candidate.insertion checked
      rw [hdocument]
      exact Or.inl rfl
  | moved popup hmoved => exact Or.inr ⟨rfl, Or.inr hmoved.listing⟩

/-- A refresh leaves no list, the list of the document, or all as it was if
that is the list of this text already. -/
theorem PopupInvariant.refreshIfStale_listing (hinv : completer.PopupInvariant settings owner?) :
    completer.refreshIfStale.completer.popup.listing = none ∨
      completer.refreshIfStale.completer.Listed settings ∨
      completer.refreshIfStale.completer = completer ∧
        ∀ listing ∈ completer.popup.listing,
          listing.1 = some (Surface.text completer.document) := by
  unfold refreshIfStale
  cases hvisible : completer.popup.visible with
  | false =>
      left
      simpa using hinv.coherent.listing_eq_none_iff.2 hvisible
  | true =>
      cases hstale : completer.isStale with
      | true =>
          have hattached := hinv.attached hvisible
          simp only [refresh, hattached, hvisible, Bool.and_self, Bool.not_true, Bool.or_self,
            Bool.false_eq_true, if_false, if_true]
          split
          · exact Or.inl rfl
          · exact Or.inr (Or.inl (hinv.listed_of_filled hvisible))
      | false =>
          refine Or.inr (Or.inr ⟨by simp, ?_⟩)
          intro listing hlisting
          obtain ⟨session, hsession, rfl⟩ := Option.map_eq_some_iff.1 hlisting
          simpa [isStale, hsession, PopupSession.isStale] using hstale

end Completer

namespace Editor

variable {typing : Typing} {settings : Settings}

/-- An action leaves no list, the list of the document as it is then, or the
list that was there before together with its text. -/
theorem Move.listing {completer moved : Completer Pane} (hmove : Move typing completer moved)
    (hinv : ∃ owner?, completer.PopupInvariant settings owner?)
    (hfresh : ∀ listing ∈ completer.popup.listing,
      listing.1 = some (Surface.text completer.document)) :
    moved.popup.listing = none ∨ moved.Listed settings ∨
      moved.popup.listing = completer.popup.listing ∧
        Surface.text moved.document = Surface.text completer.document := by
  obtain ⟨owner?, hinv⟩ := hinv
  cases hmove with
  | still => exact Or.inr (Or.inr ⟨rfl, rfl⟩)
  | drawn inner => exact Or.inr (Or.inr ⟨rfl, rfl⟩)
  | rebound owner => exact Or.inl rfl
  | reacted heffect =>
      rcases hinv.effect_listing heffect with hnone | ⟨hdocument, hlisted | hkept⟩
      · exact Or.inl hnone
      · exact Or.inr (Or.inl hlisted)
      · exact Or.inr (Or.inr ⟨hkept, by rw [hdocument]⟩)
  | @answered first second hfirst hsecond =>
      rcases (hinv.effect hfirst).effect_listing hsecond with
        hnone | ⟨hdocument, hlisted | hkept⟩
      · exact Or.inl hnone
      · exact Or.inr (Or.inl hlisted)
      · rcases hinv.effect_listing hfirst with hnone | ⟨hdocument', hlisted | hkept'⟩
        · exact Or.inl (hkept.trans hnone)
        · -- The release left the list of the press, and the document it is for.
          refine Or.inr (Or.inl ?_)
          obtain ⟨document, popup, hframe⟩ := hsecond.frame
          rw [hframe] at hdocument hkept ⊢
          obtain rfl : document = first.completer.document := hdocument
          exact hkept.trans hlisted
        · exact Or.inr (Or.inr ⟨hkept.trans hkept', by rw [hdocument, hdocument']⟩)
  | typed event popup horigin =>
      have htyped := popupInvariant_typed hinv horigin
        (typedPane typing completer.document event)
      rcases htyped.refreshIfStale_listing with hnone | hlisted | ⟨hsame, hprobed⟩
      · exact Or.inl hnone
      · exact Or.inr (Or.inl hlisted)
      · rw [hsame]
        rcases horigin with rfl | rfl
        · cases hlisting : completer.popup.listing with
          | none => exact Or.inl rfl
          | some listing =>
              -- The list is of the text before and of the text now, so these are one.
              have hbefore := hfresh listing hlisting
              have hnow := hprobed listing hlisting
              exact Or.inr (Or.inr ⟨rfl, Option.some.inj (hnow.symm.trans hbefore)⟩)
        · exact Or.inl rfl

/-- A popup with a list got it at some moment of the run, for the document as
it was then, and since then neither list nor text have changed. -/
theorem run_listed (typing : Typing) (text : Text) (vocabulary : Vocabulary)
    (settings : Settings) (actions : List Action) :
    let start := new text vocabulary settings
    (start.run typing actions).completer.popup.listing = none ∨
      ∃ before, before <+: actions ∧ (start.run typing before).completer.Listed settings ∧
        ∀ middle, before <+: middle → middle <+: actions →
          (start.run typing middle).completer.popup.listing =
              (start.run typing before).completer.popup.listing ∧
            Surface.text (start.run typing middle).completer.document =
              Surface.text (start.run typing before).completer.document := by
  intro start
  induction actions using List.reverseRecOn with
  | nil => exact Or.inl rfl
  | append_singleton actions action ih =>
      have hmove := next_move typing (run_live typing text vocabulary settings actions) action
      have hinv := run_popupInvariant typing text vocabulary settings actions
      have hfresh : ∀ listing ∈ (start.run typing actions).completer.popup.listing,
          listing.1 = some (Surface.text (start.run typing actions).completer.document) := by
        intro listing hlisting
        rcases ih with hnone | ⟨before, hbefore, hlisted, hsince⟩
        · simp [hnone] at hlisting
        · obtain ⟨hlist, htext⟩ := hsince actions hbefore List.prefix_rfl
          rw [hlist, hlisted, Option.mem_some_iff] at hlisting
          rw [htext, ← hlisting]
      have hnext := hmove.listing hinv hfresh
      rw [← run_concat] at hnext
      rcases hnext with hnone | hlisted | ⟨hkept, htext⟩
      · exact Or.inl hnone
      · refine Or.inr ⟨actions ++ [action], List.prefix_rfl, hlisted, ?_⟩
        intro middle hafter hmiddle
        obtain rfl : middle = actions ++ [action] :=
          hmiddle.eq_of_length_le hafter.length_le
        exact ⟨rfl, rfl⟩
      · rcases ih with hnone | ⟨before, hbefore, hlisted, hsince⟩
        · exact Or.inl (hkept.trans hnone)
        · refine Or.inr ⟨before, hbefore.trans (List.prefix_append _ _), hlisted, ?_⟩
          intro middle hafter hmiddle
          rcases List.prefix_concat_iff.1 hmiddle with rfl | hearlier
          · obtain ⟨hlist, hsame⟩ := hsince actions hbefore List.prefix_rfl
            exact ⟨hkept.trans hlist, htext.trans hsame⟩
          · exact hsince middle hafter hearlier

/-- What a pane has to offer at its caret depends on its text and an offset in
it.  A caret beyond the end has no more to offer than one at the start. -/
theorem exists_lookup_onText (completer : Completer Pane) :
    ∃ caret ≤ (Surface.text completer.document).length,
      completer.lookup.candidates =
        (completer.onText (Surface.text completer.document) caret).lookup.candidates := by
  by_cases hcaret :
      Surface.caret completer.document ≤ (Surface.text completer.document).length
  · exact ⟨_, hcaret, rfl⟩
  · refine ⟨0, Nat.zero_le _, ?_⟩
    have houtside : completer.partialWord =
        .error (.outOfRange (Surface.caret completer.document) 0) := by
      unfold Completer.partialWord Delimiters.locate
      rw [if_neg (by omega)]
      dsimp only
      rw [if_pos (by rw [List.length_take]; omega)]
    simp only [Completer.lookup, houtside]
    rfl

/-- What can be offered for a text is the same at all moments of a run. -/
theorem lookup_onText_run (typing : Typing) (text : Text) (vocabulary : Vocabulary)
    (settings : Settings) (actions : List Action) (document : Text) (caret : Nat) :
    (((new text vocabulary settings).run typing actions).completer.onText document caret).lookup =
      ((new text vocabulary settings).completer.onText document caret).lookup := by
  obtain ⟨_, _, hframe⟩ := run_frame typing text vocabulary settings actions
  rw [hframe]
  rfl

/-- Whenever the popup is open its list is the one of the present text: it was
computed for that text and holds the first candidates at some offset of it. -/
theorem run_popup_fresh (typing : Typing) (text : Text) (vocabulary : Vocabulary)
    (settings : Settings) (actions : List Action) :
    let editor := (new text vocabulary settings).run typing actions
    let now := Surface.text editor.completer.document
    editor.completer.popup.visible = true →
      ∃ session, editor.completer.popup.session = some session ∧ session.probed = some now ∧
        ∃ caret ≤ now.length,
          session.rows = (editor.completer.onText now caret).lookup.candidates.take
            (max 1 settings.maxEntries) := by
  intro editor now hvisible
  obtain ⟨owner?, hinv⟩ := run_popupInvariant typing text vocabulary settings actions
  rcases run_listed typing text vocabulary settings actions with
    hnone | ⟨before, hbefore, hlisted, hsince⟩
  · have hhidden := hinv.coherent.listing_eq_none_iff.1 hnone
    exact absurd hvisible (by simp [editor, hhidden])
  · obtain ⟨hlist, htext⟩ := hsince actions hbefore List.prefix_rfl
    obtain ⟨session, hsession, hpair⟩ := Option.map_eq_some_iff.1 (hlist.trans hlisted)
    obtain ⟨hprobed, hrows⟩ := Prod.mk.inj hpair
    obtain ⟨caret, hcaret, hlookup⟩ :=
      exists_lookup_onText ((new text vocabulary settings).run typing before).completer
    refine ⟨session, hsession, hprobed.trans (by rw [← htext]), caret, ?_, ?_⟩
    · rwa [← htext] at hcaret
    · have hbefore := lookup_onText_run typing text vocabulary settings before now caret
      have hafter := lookup_onText_run typing text vocabulary settings actions now caret
      rw [hrows, hlookup, ← htext, hbefore, hafter]

/-- The list is refreshed while the word grows and outlives a move of the
cursor. -/
theorem run_popup_fresh_moved :
    let typing : Typing := fun area event => (area.input event).1
    let actions : List Action :=
      [.draw 80 24, .event (.key { code := .tab }), .event (.key { code := .char 'a' }),
       .event (.key { code := .home })]
    let settings : Settings := { maxEntries := 1 }
    let editor := (new "h".toList Vocabulary.menu settings).run typing actions
    let now := Surface.text editor.completer.document
    now = "ha".toList ∧ editor.completer.popup.visible = true ∧
      ∃ session, editor.completer.popup.session = some session ∧ session.probed = some now ∧
        ∃ caret ≤ now.length,
          session.rows = (editor.completer.onText now caret).lookup.candidates.take
            (max 1 settings.maxEntries) := by
  intro typing actions settings
  have hfresh := run_popup_fresh typing "h".toList Vocabulary.menu settings actions
  dsimp only at hfresh ⊢
  have hvisible : ((new "h".toList Vocabulary.menu settings).run typing
      actions).completer.popup.visible = true := by decide
  exact ⟨by decide, hvisible, hfresh hvisible⟩

end Editor

end ClassExpr
