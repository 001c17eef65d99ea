/-
What the rows of an open popup have to do with the word at the caret.

The rows are computed for the word that the caret was on at that moment, and
each of them extends that word.  Keys that move the caret and change no text
leave the list as it is, so all that can be said later is where the caret may
stand: anywhere in the part of the word that was there when the list was made.
-/
import ClassExpr.Proofs.NamePrefixes
import ClassExpr.Proofs.PopupFreshness
import ClassExpr.Proofs.WordAtCaret

namespace ClassExpr

theorem Popup.rows_eq_listing (popup : Popup) :
    popup.rows = (popup.listing.map Prod.snd).getD [] := by
  unfold rows listing
  cases popup.session with
  | none => rfl
  | some session => rfl

theorem CandidateSource.prefix_of_mem_gather {render : Rendering} {vocabulary : Vocabulary}
    {start : Text} {expectations : Expectations} {candidate : Candidate}
    (hcandidate : candidate ∈ (ofVocabulary render render vocabulary).gather start expectations) :
    Text.lowercase start <+: Text.lowercase candidate.insertion := by
  rcases mem_gather.1 hcandidate with ⟨word, _, hstart, rfl⟩ | ⟨entity, _, _, hstart, rfl⟩
  · exact hstart
  · exact hstart

namespace Completer

variable {σ : Type} [Surface σ] {completer : Completer σ}

/-- The caret is on a word that every row of the popup extends, up to case. -/
def RowsExtend (completer : Completer σ) (word : PartialWord) : Prop :=
  completer.partialWord = .ok (some word) ∧
    ∀ row ∈ completer.popup.rows, Text.lowercase word.text <+: Text.lowercase row.insertion

theorem gather_of_lookup_ne_nil (hlookup : completer.lookup.candidates ≠ []) :
    ∃ word expectations, completer.partialWord = .ok (some word) ∧
      completer.lookup.candidates = completer.source.gather word.text expectations := by
  unfold lookup candidatesAfter at hlookup
  split at hlookup
  · rename_i word hword
    split at hlookup
    · rename_i before hspan
      dsimp only at hlookup
      split at hlookup
      · rename_i expectations hask
        refine ⟨word, expectations, hword, ?_⟩
        simp only [lookup, candidatesAfter, hword, hspan, hask]
      · exact absurd rfl hlookup
    · exact absurd rfl hlookup
  · exact absurd rfl hlookup

/-- Rows that are the list of the document extend the word at the caret. -/
theorem Listed.rowsExtend {settings : Settings} {render : Rendering} {vocabulary : Vocabulary}
    (hlisted : completer.Listed settings)
    (hsource : completer.source = CandidateSource.ofVocabulary render render vocabulary)
    (hrows : completer.popup.rows ≠ []) : ∃ word, completer.RowsExtend word := by
  -- The rows are the first candidates, and so gathered for the word at the caret.
  have hlist : completer.popup.rows =
      completer.lookup.candidates.take (max 1 settings.maxEntries) := by
    rw [Popup.rows_eq_listing, hlisted]
    rfl
  rw [hlist] at hrows
  obtain ⟨word, expectations, hword, hgather⟩ :=
    gather_of_lookup_ne_nil fun hnil => hrows (by rw [hnil, List.take_nil])
  refine ⟨word, hword, ?_⟩
  intro row hrow
  rw [hlist] at hrow
  have hoffered := List.mem_of_mem_take hrow
  rw [hgather, hsource] at hoffered
  exact CandidateSource.prefix_of_mem_gather hoffered

/-- If the caret moves back inside the word and nothing else happens, the rows
extend what is left of the word before it.  Inside a word a capital sigma is
lower-cased in another way than at its end. -/
theorem RowsExtend.inside {moved : Completer σ} {word : PartialWord}
    (hextend : completer.RowsExtend word) (hdelimiters : moved.delimiters = completer.delimiters)
    (htext : Surface.text moved.document = Surface.text completer.document)
    (hrows : moved.popup.rows = completer.popup.rows) {caret : Nat}
    (hmoved : Surface.caret moved.document = caret) (hpos : 0 < caret)
    (hstart : word.start ≤ caret) (hcaret : caret ≤ word.caret)
    (hsigma : caret = word.caret ∨ 'Σ' ∉ word.text) :
    moved.RowsExtend ⟨word.start, caret, word.text.take (caret - word.start)⟩ := by
  obtain ⟨hword, hbegin⟩ := hextend
  unfold partialWord at hword
  refine ⟨?_, ?_⟩
  · unfold partialWord
    rw [hdelimiters, htext, hmoved]
    exact Delimiters.locate_inside hword hpos hstart hcaret
  · intro row hrow
    rw [hrows] at hrow
    refine List.IsPrefix.trans ?_ (hbegin row hrow)
    rcases hsigma with hsame | hsigma
    · have hlength := Delimiters.length_text_of_locate hword
      unfold PartialWord.length at hlength
      have hwhole : word.text.take (caret - word.start) = word.text := by
        rw [hsame, List.take_of_length_le hlength.le]
      exact ⟨[], by rw [List.append_nil, hwhole]⟩
    · exact Text.lowercase_prefix (List.take_prefix _ _) hsigma

end Completer

namespace Editor

theorem source_run (typing : Typing) (text : Text) (vocabulary : Vocabulary)
    (settings : Settings) (actions : List Action) :
    ((new text vocabulary settings).run typing actions).completer.source =
      CandidateSource.ofVocabulary Entity.short Entity.short vocabulary := by
  obtain ⟨_, _, hframe⟩ := run_frame typing text vocabulary settings actions
  rw [hframe]
  rfl

theorem delimiters_run (typing : Typing) (text : Text) (vocabulary : Vocabulary)
    (settings : Settings) (actions : List Action) :
    ((new text vocabulary settings).run typing actions).completer.delimiters =
      settings.delimiters := by
  obtain ⟨_, _, hframe⟩ := run_frame typing text vocabulary settings actions
  rw [hframe]
  rfl

/-- Whenever the popup has rows they were listed at some moment of the run, at
which every row extended the word at the caret, and since then neither the
rows nor the text have changed.  So they extend the word at the caret for as
long as the caret is in the part of that word that was before it then.  Inside
the word a capital sigma is lower-cased in another way than at its end. -/
theorem run_rows_extend_word (typing : Typing) (text : Text) (vocabulary : Vocabulary)
    (settings : Settings) (actions : List Action) :
    let start := new text vocabulary settings
    let now := (start.run typing actions).completer
    let caret := Surface.caret now.document
    now.popup.rows ≠ [] →
      ∃ before word, before <+: actions ∧ (start.run typing before).completer.RowsExtend word ∧
        (∀ middle, before <+: middle → middle <+: actions →
          (start.run typing middle).completer.popup.rows = now.popup.rows ∧
            Surface.text (start.run typing middle).completer.document =
              Surface.text now.document) ∧
        (0 < caret → word.start ≤ caret → caret ≤ word.caret →
          (caret = word.caret ∨ 'Σ' ∉ word.text) →
            now.RowsExtend ⟨word.start, caret, word.text.take (caret - word.start)⟩) := by
  intro start now caret hrows
  rcases run_listed typing text vocabulary settings actions with
    hnone | ⟨before, hbefore, hlisted, hsince⟩
  · rw [Popup.rows_eq_listing, hnone] at hrows
    exact absurd rfl hrows
  · have hrowsSince : ∀ middle, before <+: middle → middle <+: actions →
        (start.run typing middle).completer.popup.rows =
          (start.run typing before).completer.popup.rows := by
      intro middle hafter hmiddle
      rw [Popup.rows_eq_listing, Popup.rows_eq_listing, (hsince middle hafter hmiddle).1]
    have hrowsNow := hrowsSince actions hbefore List.prefix_rfl
    have htextNow := (hsince actions hbefore List.prefix_rfl).2
    have hdelimiters := delimiters_run typing text vocabulary settings
    obtain ⟨word, hextend⟩ := hlisted.rowsExtend
      (source_run typing text vocabulary settings before) (hrowsNow ▸ hrows)
    refine ⟨before, word, hbefore, hextend, ?_, ?_⟩
    · intro middle hafter hmiddle
      exact ⟨(hrowsSince middle hafter hmiddle).trans hrowsNow.symm,
        (hsince middle hafter hmiddle).2.trans htextNow.symm⟩
    · exact hextend.inside ((hdelimiters actions).trans (hdelimiters before).symm) htextNow
        hrowsNow rfl

/-- The rows of "ha" extend what is left of it when the caret moves back. -/
theorem run_rows_extend_word_back :
    let typing : Typing := fun area event => (area.input event).1
    let actions : List Action :=
      [.draw 80 24, .event (.key { code := .tab }),
       .event (.key { code := .char 'b', modifiers := { ctrl := true } })]
    let now := ((new "ha".toList Vocabulary.menu {}).run typing actions).completer
    Surface.caret now.document = 1 ∧ now.popup.rows ≠ [] ∧
      now.RowsExtend ⟨0, 1, "h".toList⟩ := by
  intro typing actions
  have hextend := run_rows_extend_word typing "ha".toList Vocabulary.menu {} actions
  dsimp only at hextend ⊢
  have hcaret : Surface.caret ((new "ha".toList Vocabulary.menu {}).run typing
      actions).completer.document = 1 := by decide
  have hrows : ((new "ha".toList Vocabulary.menu {}).run typing
      actions).completer.popup.rows ≠ [] := by decide
  obtain ⟨before, word, hbefore, ⟨hword, _⟩, _, hinside⟩ := hextend hrows
  -- Whenever the rows were listed, the caret was behind the word or behind its first letter.
  have hwords : ∀ count ≤ 3,
      ((new "ha".toList Vocabulary.menu {}).run typing (actions.take count)).completer.partialWord ∈
        [.ok (some ⟨0, 2, "ha".toList⟩), .ok (some ⟨0, 1, "h".toList⟩)] := by decide
  have hlisted := hwords before.length hbefore.length_le
  rw [← List.prefix_iff_eq_take.1 hbefore, hword] at hlisted
  rw [hcaret] at hinside
  refine ⟨hcaret, hrows, ?_⟩
  rcases List.mem_pair.1 hlisted with hfound | hfound
  · obtain rfl := Option.some.inj (Except.ok.inj hfound)
    exact hinside (by decide) (by decide) (by decide) (.inr (by decide))
  · obtain rfl := Option.some.inj (Except.ok.inj hfound)
    exact hinside (by decide) (by decide) (by decide) (.inl rfl)

/-- The caret moves up to another word and the popup stays, with rows that
have nothing to do with that word. -/
theorem rows_outlive_caret :
    let typing : Typing := fun area event => (area.input event).1
    let actions : List Action :=
      [.draw 80 24, .event (.key { code := .tab }),
       .event (.key { code := .char 'p', modifiers := { ctrl := true } })]
    let now := ((new "Pizza\nand h".toList Vocabulary.menu {}).run typing actions).completer
    now.popup.visible = true ∧ now.popup.rows ≠ [] ∧ ∀ word, ¬ now.RowsExtend word := by
  intro typing actions now
  have hword : now.partialWord = .ok (some ⟨0, 5, "Pizza".toList⟩) := by decide
  refine ⟨by decide, by decide, ?_⟩
  rintro word ⟨hfound, hextend⟩
  obtain rfl := Option.some.inj (Except.ok.inj (hword.symm.trans hfound))
  revert hextend
  decide

end Editor

end ClassExpr
