/-
What a completer does to a buffer.

A completion puts its word in place of the partial word at the caret and
leaves the caret behind it, however old the popup is that offered the word.
No other operation touches the text or the caret.
-/
import ClassExpr.Proofs.BufferEdits
import ClassExpr.Proofs.PopupCoherence

namespace ClassExpr

/-- A located word ends at the caret, inside the text. -/
theorem Delimiters.locate_eq_some {delimiters : Delimiters} {text : Text} {caret : Nat}
    {word : PartialWord} (hlocate : delimiters.locate text caret = .ok (some word)) :
    word.caret = caret ∧ word.start ≤ caret ∧ caret ≤ text.length := by
  unfold locate at hlocate
  split at hlocate
  · cases hlocate
  · dsimp only at hlocate
    split at hlocate
    · cases hlocate
    · rename_i hshort
      cases hlocate
      simp only [List.length_take] at hshort ⊢
      refine ⟨trivial, ?_, ?_⟩ <;> omega

theorem PartialWord.start_add_length {word : PartialWord} (hstart : word.start ≤ word.caret) :
    word.start + word.length = word.caret := by
  unfold length
  omega

namespace Completer

/-- Replacing a word that lies inside the text never fails. -/
theorem replaceWord_eq (buffer : Buffer) {word : PartialWord} (hstart : word.start ≤ word.caret)
    (hcaret : word.caret ≤ buffer.text.length) (text : Text) :
    replaceWord buffer word text =
      ⟨{ buffer with
          text := buffer.text.take word.start ++ text ++ buffer.text.drop word.caret
          caret := word.start + text.length }, none⟩ := by
  have hstop := PartialWord.start_add_length hstart
  have hrange : word.start + word.length ≤ buffer.text.length := by omega
  have hhead : (buffer.text.take word.start).length = word.start := by
    rw [List.length_take]
    omega
  change ((buffer.remove word.start word.length).andThen fun document =>
    document.insert word.start text).andThen (fun document =>
      document.setCaret (word.start + text.length)) = _
  rw [Buffer.remove_eq buffer hrange, Edited.andThen_done, Buffer.insert_eq, Edited.andThen_done,
    Buffer.setCaret_eq]
  · simp only [List.take_left' hhead, List.drop_left' hhead, hstop]
  · simp only [List.take_left' hhead, List.length_append, hhead]
    omega
  · simp only [List.length_append, hhead]
    omega

/-- The word at the caret of `before` has given way to another one. -/
def Replaced (before after : Completer Buffer) (word : Text) : Prop :=
  ∃ found, before.partialWord = .ok (some found) ∧
    after.document.text =
      before.document.text.take found.start ++ word ++ before.document.text.drop found.caret ∧
    after.document.caret = found.start + word.length

/-- Text and caret are what they were. -/
def Untouched (before after : Completer Buffer) : Prop :=
  after.document.text = before.document.text ∧ after.document.caret = before.document.caret

/-- An insertion succeeds exactly if there is a word at the caret. -/
theorem insertWord_replaced_or_untouched (completer : Completer Buffer) (word : Text) :
    ((completer.insertWord word).2 = none ∧
        Replaced completer (completer.insertWord word).1 word) ∨
      ((completer.insertWord word).2 ≠ none ∧
        (∀ found, completer.partialWord ≠ .ok (some found)) ∧
        Untouched completer (completer.insertWord word).1) := by
  unfold insertWord
  split
  · rename_i fault hword
    exact Or.inr ⟨by simp, by simp [hword], rfl, rfl⟩
  · rename_i hword
    exact Or.inr ⟨by simp, by simp [hword], rfl, rfl⟩
  · rename_i found hword
    -- The word was located in the document that is edited, so no step can run out of it.
    obtain ⟨hcaret, hstart, hlength⟩ := Delimiters.locate_eq_some hword
    have hedit := replaceWord_eq completer.document (hcaret ▸ hstart) (hcaret ▸ hlength) word
    rw [hedit]
    exact Or.inl ⟨rfl, found, hword, rfl, rfl⟩

theorem complete_replaced_or_untouched (completer : Completer Buffer) (word : Text)
    (checked : List Text) :
    let reaction := completer.complete word checked
    (reaction.outcome = .inserted word ∧ Replaced completer reaction.completer word) ∨
      (reaction.outcome = .nothing ∧ (∀ found, completer.partialWord ≠ .ok (some found)) ∧
        Untouched completer reaction.completer) := by
  unfold complete
  rcases completer.insertWord_replaced_or_untouched word with
    ⟨hfault, hreplaced⟩ | ⟨hfault, hnone, huntouched⟩
  · left
    exact ⟨by simp [hfault], hreplaced⟩
  · right
    exact ⟨by simp [hfault], hnone, huntouched⟩

/-- Of all effects only a completion changes the document, and it closes the
popup. -/
theorem Effect.document {completer : Completer Buffer} {reaction : Reaction Buffer}
    (heffect : Effect completer reaction) :
    (∃ word, reaction.outcome = .inserted word ∧ Replaced completer reaction.completer word ∧
        reaction.completer.popup.visible = false) ∨
      (∀ word, reaction.outcome ≠ .inserted word) ∧ Untouched completer reaction.completer := by
  cases heffect with
  | idle _ _ => exact Or.inr ⟨by simp, rfl, rfl⟩
  | hidden _ _ => exact Or.inr ⟨by simp, rfl, rfl⟩
  | filled _ _ => exact Or.inr ⟨by simp, rfl, rfl⟩
  | opened _ _ _ _ => exact Or.inr ⟨by simp, rfl, rfl⟩
  | completed candidate checked _ _ =>
      obtain ⟨document, hdocument⟩ := completer.complete_eq candidate.insertion checked
      have hhidden : (completer.complete candidate.insertion checked).completer.popup.visible =
          false := by
        rw [hdocument]
        rfl
      rcases completer.complete_replaced_or_untouched candidate.insertion checked with
        ⟨houtcome, hreplaced⟩ | ⟨houtcome, _, huntouched⟩
      · exact Or.inl ⟨candidate.insertion, houtcome, hreplaced, hhidden⟩
      · exact Or.inr ⟨by simp [houtcome], huntouched⟩
  | moved _ _ => exact Or.inr ⟨by simp, rfl, rfl⟩

/-- Without a word at the caret there are no candidates. -/
theorem partialWord_of_candidates {completer : Completer Buffer}
    (hfound : completer.lookup.candidates ≠ []) :
    ∃ found, completer.partialWord = .ok (some found) := by
  unfold lookup at hfound
  split at hfound
  · rename_i found hword
    exact ⟨found, hword⟩
  · simp at hfound

theorem trigger_of_single {completer : Completer Buffer} (hattached : completer.attached = true)
    {candidate : Candidate} (hsingle : completer.lookup.candidates = [candidate]) :
    completer.trigger = completer.complete candidate.insertion completer.lookup.checked := by
  simp [trigger, hattached, hsingle]

/-- A trigger inserts exactly if the completer is attached and has a single
candidate. -/
theorem trigger_outcome_eq_inserted_iff (completer : Completer Buffer) (word : Text) :
    completer.trigger.outcome = .inserted word ↔
      completer.attached = true ∧
        ∃ candidate, completer.lookup.candidates = [candidate] ∧ candidate.insertion = word := by
  constructor
  · intro houtcome
    unfold trigger at houtcome
    split at houtcome
    · cases houtcome
    · rename_i hattached
      have hattached : completer.attached = true := by simpa using hattached
      dsimp only at houtcome
      split at houtcome
      · cases houtcome
      · rename_i candidate hfound
        refine ⟨hattached, candidate, hfound, ?_⟩
        rcases completer.complete_replaced_or_untouched candidate.insertion
            completer.lookup.checked with ⟨hinserted, _⟩ | ⟨hnothing, _⟩
        · rw [hinserted] at houtcome
          exact Outcome.inserted.inj houtcome
        · rw [hnothing] at houtcome
          cases houtcome
      · unfold offer at houtcome
        dsimp only at houtcome
        split at houtcome
        · cases houtcome
        · split at houtcome <;> cases houtcome
  · rintro ⟨hattached, candidate, hfound, rfl⟩
    have hword := partialWord_of_candidates (hfound ▸ List.cons_ne_nil candidate [])
    obtain ⟨found, hword⟩ := hword
    rw [trigger_of_single hattached hfound]
    rcases completer.complete_replaced_or_untouched candidate.insertion
        completer.lookup.checked with ⟨hinserted, _⟩ | ⟨_, hnone, _⟩
    · exact hinserted
    · exact absurd hword (hnone found)

/-- In a coherent popup a selected row is accepted and the popup closes. -/
theorem PopupInvariant.accept_hides {settings : Settings} {owner? : Option Nat}
    {completer : Completer Buffer} (hinv : completer.PopupInvariant settings owner?)
    {candidate : Candidate} (hselected : completer.popup.selected? = some candidate) :
    completer.accept.completer.popup.visible = false := by
  have hsession : completer.popup.session.isSome = true := by
    cases hcurrent : completer.popup.session with
    | none => simp [Popup.selected?, hcurrent] at hselected
    | some session => rfl
  have hvisible := hinv.coherent.session_iff.2 hsession
  have hattached := hinv.attached hvisible
  obtain ⟨document, hdocument⟩ := completer.complete_eq candidate.insertion []
  have haccept : completer.accept = completer.complete candidate.insertion [] := by
    simp [accept, hattached, hvisible, hselected]
  rw [haccept, hdocument]
  rfl

/-- At every moment of the life of a completer over a buffer: an operation
that reports an insertion has replaced the word at the caret and closed the
popup, and no other operation touches the document.  A trigger inserts exactly
if it has a single candidate, and accepting a selected row closes the popup. -/
theorem run_document_effect (document : Buffer) (checker : Checker) (source : CandidateSource)
    (settings : Settings) (events : List (Event Buffer)) :
    let completer := (attach document checker source settings).run events
    (∀ operation word, (completer.perform operation).outcome = .inserted word →
        Replaced completer (completer.perform operation).completer word ∧
          (completer.perform operation).completer.popup.visible = false) ∧
      (∀ operation, (∀ word, (completer.perform operation).outcome ≠ .inserted word) →
        Untouched completer (completer.perform operation).completer) ∧
      (∀ word, (completer.insertWord word).2 = none →
        Replaced completer (completer.insertWord word).1 word) ∧
      (∀ word, (completer.insertWord word).2 ≠ none →
        Untouched completer (completer.insertWord word).1) ∧
      (∀ owner, Untouched completer (completer.moveToWindow owner)) ∧
      Untouched completer completer.detach ∧
      (∀ word, completer.trigger.outcome = .inserted word ↔
        completer.attached = true ∧
          ∃ candidate, completer.lookup.candidates = [candidate] ∧
            candidate.insertion = word) ∧
      ∀ candidate, completer.popup.selected? = some candidate →
        completer.accept.completer.popup.visible = false := by
  intro completer
  refine ⟨?_, ?_, ?_, ?_, fun _ => ⟨rfl, rfl⟩, ?_, completer.trigger_outcome_eq_inserted_iff, ?_⟩
  · intro operation word houtcome
    rcases (completer.perform_effect operation).document with
      ⟨inserted, hinserted, hreplaced, hhidden⟩ | ⟨hother, _⟩
    · obtain rfl : inserted = word := Outcome.inserted.inj (hinserted.symm.trans houtcome)
      exact ⟨hreplaced, hhidden⟩
    · exact absurd houtcome (hother word)
  · intro operation hother
    rcases (completer.perform_effect operation).document with
      ⟨inserted, hinserted, _⟩ | ⟨_, huntouched⟩
    · exact absurd hinserted (hother inserted)
    · exact huntouched
  · intro word hfault
    rcases completer.insertWord_replaced_or_untouched word with ⟨_, hreplaced⟩ | ⟨hrefused, _⟩
    · exact hreplaced
    · exact absurd hfault hrefused
  · intro word hfault
    rcases completer.insertWord_replaced_or_untouched word with ⟨hdone, _⟩ | ⟨_, _, huntouched⟩
    · exact absurd hdone hfault
    · exact huntouched
  · unfold detach
    split <;> exact ⟨rfl, rfl⟩
  · intro candidate hselected
    have hinv := run_popupInvariant document checker source settings events
    exact hinv.accept_hides hselected

/-- A popup that was opened for one document and is accepted in another. -/
theorem run_document_effect_stale :
    let checker : Checker := fun _ => .expected { keywords := ["Person".toList, "Pet".toList] }
    let source : CandidateSource := ⟨fun _ _ => [], fun entity => entity.iri⟩
    let completer := (attach (Buffer.ofText "P".toList) checker source {}).run
      [.operation .trigger, .change ⟨"not Qu and R".toList, 6, none, 1⟩ checker source]
    (completer.perform .accept).outcome = .inserted "Person".toList ∧
      Replaced completer (completer.perform .accept).completer "Person".toList ∧
      (completer.perform .accept).completer.popup.visible = false := by
  intro checker source completer
  have houtcome : (completer.perform .accept).outcome = .inserted "Person".toList := by decide
  exact ⟨houtcome, (run_document_effect _ checker source {} _).1 .accept _ houtcome⟩

end Completer

end ClassExpr
