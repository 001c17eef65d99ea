/-
What a completer has checked, and when.

An operation has one text checked at most, and that is what stands before the
word at the caret with the sentinel behind it.  Once the list of the popup has
followed the document, releases have nothing checked until the text is another.
-/
import ClassExpr.Proofs.CheckerAnswers
import ClassExpr.Proofs.PopupFreshness

namespace ClassExpr

namespace Completer

variable {σ : Type}

/-- The operations that may have something checked. -/
def Operation.mayAsk : Operation → Bool
  | .trigger | .refresh | .refreshIfStale | .key _ => true
  | .accept | .dismiss | .moveSelection _ | .acceptRow _ => false

/-- The operations that make the list follow the document: a refresh if it is
stale, and every release but those of the arrows. -/
def Operation.Follows : Operation → Prop
  | .refreshIfStale => True
  | .key input => input.phase = .release ∧ input.key ≠ .up ∧ input.key ≠ .down
  | _ => False

theorem dismiss_checked (completer : Completer σ) : completer.dismiss.checked = [] := by
  unfold dismiss
  split
  · rfl
  · rfl

theorem moveSelection_checked (completer : Completer σ) (delta : Int) :
    (completer.moveSelection delta).checked = [] := by
  unfold moveSelection
  split
  · rfl
  · rfl

variable [Surface σ]

/-- Whatever an operation does, it has nothing checked or what finding the
candidates takes. -/
theorem Effect.checked {completer : Completer σ} {reaction : Reaction σ}
    (heffect : Effect completer reaction) :
    reaction.checked = [] ∨ reaction.checked = completer.lookup.checked := by
  cases heffect with
  | idle _ hchecked => exact hchecked
  | hidden _ hchecked => exact hchecked
  | filled _ _ => exact Or.inr rfl
  | opened _ _ _ _ => exact Or.inr rfl
  | completed _ _ _ hchecked => exact hchecked
  | moved _ _ => exact Or.inl rfl

theorem accept_checked (completer : Completer σ) : completer.accept.checked = [] := by
  unfold accept
  split
  · rfl
  · split
    · rfl
    · rfl

theorem acceptRow_checked (completer : Completer σ) (row : Nat) :
    (completer.acceptRow row).checked = [] := by
  unfold acceptRow
  split
  · split
    · exact accept_checked _
    · rfl
  · rfl

theorem perform_checked_of_not_mayAsk (completer : Completer σ) {operation : Operation}
    (hsilent : operation.mayAsk = false) : (completer.perform operation).checked = [] := by
  cases operation with
  | accept => exact completer.accept_checked
  | dismiss => exact completer.dismiss_checked
  | moveSelection delta => exact completer.moveSelection_checked delta
  | acceptRow row => exact completer.acceptRow_checked row
  | trigger | refresh | refreshIfStale | key _ => cases hsilent

theorem perform_checked_of_detached {completer : Completer σ}
    (hdetached : completer.attached = false) (operation : Operation) :
    (completer.perform operation).checked = [] := by
  have hrefresh : completer.refresh = { completer } := by simp [refresh, hdetached]
  cases operation with
  | trigger => simp [perform, trigger, hdetached]
  | refresh => rw [perform, hrefresh]
  | refreshIfStale =>
      rw [perform, refreshIfStale, hrefresh]
      split
      · rfl
      · rfl
  | key input => simp [perform, dispatch, hdetached]
  | accept | dismiss | moveSelection _ | acceptRow _ =>
      exact completer.perform_checked_of_not_mayAsk rfl

/-- No event changes the sentinel or attaches the completer again. -/
theorem next_frame (completer : Completer σ) (event : Event σ) :
    (completer.next event).probe.sentinel = completer.probe.sentinel ∧
      (completer.attached = false → (completer.next event).attached = false) := by
  cases event with
  | operation operation =>
      obtain ⟨document, popup, hframe⟩ := (completer.perform_effect operation).frame
      rw [next, hframe]
      exact ⟨rfl, id⟩
  | insertWord word =>
      obtain ⟨document, hdocument⟩ := completer.insertWord_eq word
      rw [next, hdocument]
      exact ⟨rfl, id⟩
  | moveToWindow owner => exact ⟨rfl, id⟩
  | detach =>
      rw [next, detach]
      split
      · exact ⟨rfl, fun _ => rfl⟩
      · exact ⟨rfl, id⟩
  | change document checker source => exact ⟨rfl, id⟩

theorem run_sentinel (completer : Completer σ) (events : List (Event σ)) :
    (completer.run events).probe.sentinel = completer.probe.sentinel := by
  induction events using List.reverseRecOn with
  | nil => rfl
  | append_singleton events event ih =>
      rw [run_concat, ← ih]
      exact (next_frame _ event).1

/-- A completer that was detached once is detached. -/
theorem run_detached (completer : Completer σ) {events : List (Event σ)}
    (hdetach : .detach ∈ events) : (completer.run events).attached = false := by
  obtain ⟨before, after, rfl⟩ := List.append_of_mem hdetach
  rw [run_append]
  induction after using List.reverseRecOn with
  | nil =>
      change (completer.run before).detach.attached = false
      cases hattached : (completer.run before).attached <;> simp [detach, hattached]
  | append_singleton after event ih =>
      rw [← List.cons_append, run_concat]
      exact (next_frame _ event).2 (ih (by simp))

/-- The list of the popup, if there is one, is for the text as it is. -/
def Settled (completer : Completer σ) : Prop :=
  ∀ listing ∈ completer.popup.listing, listing.1 = some (Surface.text completer.document)

theorem settled_of_listing_eq_none {completer : Completer σ}
    (hlisting : completer.popup.listing = none) : completer.Settled := by
  intro listing hsome
  rw [hlisting] at hsome
  cases hsome

theorem Listed.settled {completer : Completer σ} {settings : Settings}
    (hlisted : completer.Listed settings) : completer.Settled := by
  intro listing hsome
  rw [hlisted] at hsome
  cases hsome
  rfl

theorem Settled.isStale {completer : Completer σ} (hsettled : completer.Settled) :
    completer.isStale = false := by
  unfold Completer.isStale
  cases hsession : completer.popup.session with
  | none => rfl
  | some session =>
      have hprobed := hsettled (session.probed, session.rows) (by simp [Popup.listing, hsession])
      simpa [PopupSession.isStale] using hprobed

theorem Settled.refreshIfStale_eq {completer : Completer σ} (hsettled : completer.Settled) :
    completer.refreshIfStale = { completer } := by
  simp [refreshIfStale, hsettled.isStale]

/-- A release finds nothing to do where the list is for the text as it is. -/
theorem Settled.dispatch_release_eq {completer : Completer σ} (hsettled : completer.Settled)
    {input : KeyInput} (hrelease : input.phase = .release) :
    completer.dispatch input = ⟨false, { completer }⟩ := by
  unfold dispatch
  split
  · rfl
  · rw [hrelease]
    dsimp only
    unfold release
    split
    · rfl
    · rfl
    · rw [hsettled.refreshIfStale_eq]

theorem Settled.run_releases {completer : Completer σ} (hsettled : completer.Settled)
    {releases : List KeyInput} (hreleases : ∀ input ∈ releases, input.phase = .release) :
    completer.run (releases.map fun input => .operation (.key input)) = completer := by
  induction releases with
  | nil => rfl
  | cons input rest ih =>
      have hfirst : completer.next (.operation (.key input)) = completer := by
        rw [next, perform, hsettled.dispatch_release_eq (hreleases input List.mem_cons_self)]
      have hrest := ih fun input hinput => hreleases input (List.mem_cons_of_mem _ hinput)
      rw [List.map_cons, run, List.foldl_cons, hfirst]
      exact hrest

namespace PopupInvariant

variable {settings : Settings} {owner? : Option Nat} {completer : Completer σ}

theorem refreshIfStale_settled (hinv : completer.PopupInvariant settings owner?) :
    completer.refreshIfStale.completer.Settled := by
  rcases hinv.refreshIfStale_listing with hnone | hlisted | ⟨hsame, hprobed⟩
  · exact settled_of_listing_eq_none hnone
  · exact hlisted.settled
  · rw [hsame]
    exact hprobed

theorem settled_of_follows (hinv : completer.PopupInvariant settings owner?)
    {operation : Operation} (hfollows : operation.Follows) :
    (completer.perform operation).completer.Settled := by
  cases operation with
  | refreshIfStale => exact hinv.refreshIfStale_settled
  | key input =>
      obtain ⟨hrelease, hup, hdown⟩ := hfollows
      cases hattached : completer.attached with
      | true =>
          have hdispatch := completer.dispatch_release input hattached fun harrow =>
            absurd harrow (not_or.2 ⟨hup, hdown⟩)
          rw [← hrelease] at hdispatch
          rw [perform, hdispatch]
          exact hinv.refreshIfStale_settled
      | false =>
          -- A detached completer shows no popup, so there is no list to be stale.
          have hidle : (completer.perform (.key input)).completer = completer := by
            simp [perform, dispatch, hattached]
          rw [hidle]
          apply settled_of_listing_eq_none
          rw [hinv.coherent.listing_eq_none_iff, ← Bool.not_eq_true]
          intro hvisible
          rw [hinv.attached hvisible] at hattached
          cases hattached
  | trigger | refresh | accept | dismiss | moveSelection _ | acceptRow _ => cases hfollows

/-- Only another text can make a list stale. -/
theorem next_settled (hinv : completer.PopupInvariant settings owner?)
    (hsettled : completer.Settled) {event : Event σ}
    (htext : Surface.text (completer.next event).document = Surface.text completer.document) :
    (completer.next event).Settled := by
  have hkept : (completer.next event).popup.listing = completer.popup.listing →
      (completer.next event).Settled := by
    intro hlisting listing hsome
    rw [hlisting] at hsome
    rw [htext]
    exact hsettled listing hsome
  cases event with
  | operation operation =>
      rcases hinv.effect_listing (completer.perform_effect operation) with
        hnone | ⟨_, hlisted | hsame⟩
      · exact settled_of_listing_eq_none hnone
      · exact hlisted.settled
      · exact hkept hsame
  | insertWord word =>
      obtain ⟨document, hdocument⟩ := completer.insertWord_eq word
      apply hkept
      rw [Completer.next, hdocument]
  | moveToWindow owner => exact settled_of_listing_eq_none rfl
  | detach =>
      cases hattached : completer.attached with
      | true =>
          apply settled_of_listing_eq_none
          simp [Completer.next, detach, hattached, Popup.listing, Popup.hide]
      | false =>
          apply hkept
          simp [Completer.next, detach, hattached]
  | change document checker source => exact hkept rfl

/-- A list stays for the text as it is until the text changes. -/
theorem run_settled (hinv : completer.PopupInvariant settings owner?)
    (hsettled : completer.Settled) {events : List (Event σ)}
    (htext : ∀ middle, middle <+: events →
      Surface.text (completer.run middle).document = Surface.text completer.document) :
    (completer.run events).Settled := by
  induction events generalizing completer owner? with
  | nil => exact hsettled
  | cons event rest ih =>
      have hfirst : Surface.text (completer.next event).document =
          Surface.text completer.document := htext [event] ⟨rest, rfl⟩
      refine ih (hinv.next event) (hinv.next_settled hsettled hfirst) ?_
      intro middle hmiddle
      rw [hfirst]
      exact htext (event :: middle) (List.cons_prefix_cons.2 ⟨rfl, hmiddle⟩)

end PopupInvariant

/-- Of a buffer one text may be checked: what is before the word at its caret,
and the sentinel. -/
def AsksAtCaret (completer : Completer Buffer) (sentinel : Text) (checked : List Text) : Prop :=
  checked = [] ∨
    ∃ word, completer.partialWord = .ok (some word) ∧
      checked = [completer.document.text.take word.start ++ sentinel]

/-- The word at the caret of a buffer is looked up behind the text before
it. -/
theorem lookup_of_partialWord {completer : Completer Buffer} {word : PartialWord}
    (hword : completer.partialWord = .ok (some word)) :
    completer.lookup =
      completer.candidatesAfter (completer.document.text.take word.start) word.text := by
  obtain ⟨_, hstart, hlength⟩ := Delimiters.locate_eq_some hword
  have hinside : ¬ completer.document.text.length < 0 + word.start := by
    rw [Nat.zero_add, Nat.not_lt]
    exact Nat.le_trans hstart hlength
  have hspan : Surface.span completer.document 0 word.start =
      .ok (completer.document.text.take word.start) := if_neg hinside
  unfold lookup
  rw [hword]
  dsimp only
  rw [hspan]

theorem lookup_asksAtCaret (completer : Completer Buffer) :
    completer.AsksAtCaret completer.probe.sentinel completer.lookup.checked := by
  cases hword : completer.partialWord with
  | error fault => exact Or.inl (by rw [lookup, hword])
  | ok word? =>
      cases word? with
      | none => exact Or.inl (by rw [lookup, hword])
      | some word =>
          refine Or.inr ⟨word, hword, ?_⟩
          rw [lookup_of_partialWord hword, candidatesAfter_checked]
          rfl

theorem perform_asksAtCaret (completer : Completer Buffer) (operation : Operation) :
    completer.AsksAtCaret completer.probe.sentinel (completer.perform operation).checked := by
  rcases (completer.perform_effect operation).checked with hnone | hlookup
  · exact Or.inl hnone
  · rw [hlookup]
    exact completer.lookup_asksAtCaret

/-- At every moment of the life of a completer over a buffer: the candidates
and every operation take one check at most, of the text before the word at the
caret with the sentinel of the settings.  Accepting, closing and moving take
none, and after it was detached no operation takes one.  The checker matters
only by its answer to what was checked, and not at all for an insertion, another
window and detaching.  After a refresh of a stale list or the release of a key
that is no arrow, and until the text changes, any number of releases do nothing,
report nothing and have nothing checked. -/
theorem run_asks_at_caret (document : Buffer) (checker : Checker) (source : CandidateSource)
    (settings : Settings) (events : List (Event Buffer)) :
    let completer := (attach document checker source settings).run events
    completer.AsksAtCaret settings.sentinel completer.lookup.checked ∧
      (∀ operation,
        completer.AsksAtCaret settings.sentinel (completer.perform operation).checked) ∧
      (∀ operation, operation.mayAsk = false → (completer.perform operation).checked = []) ∧
      (.detach ∈ events → ∀ operation, (completer.perform operation).checked = []) ∧
      (∀ other : Checker,
        (∀ text ∈ completer.lookup.checked, other text = completer.probe.checker text) →
          (completer.withChecker other).lookup = completer.lookup) ∧
      (∀ operation, completer.Heeds (·.perform operation)) ∧
      (∀ other word, (completer.withChecker other).insertWord word =
        ((completer.insertWord word).1.withChecker other, (completer.insertWord word).2)) ∧
      (∀ other owner, (completer.withChecker other).moveToWindow owner =
        (completer.moveToWindow owner).withChecker other) ∧
      (∀ other, (completer.withChecker other).detach = completer.detach.withChecker other) ∧
      ∀ (operation : Operation) (later : List (Event Buffer)), operation.Follows →
        let followed := (completer.perform operation).completer
        let now := followed.run later
        (∀ middle, middle <+: later →
          (followed.run middle).document.text = followed.document.text) →
        ∀ releases : List KeyInput, (∀ input ∈ releases, input.phase = .release) →
          now.run (releases.map fun input => .operation (.key input)) = now ∧
            ∀ input ∈ releases, now.dispatch input = ⟨false, { completer := now }⟩ := by
  intro completer
  have hsentinel : completer.probe.sentinel = settings.sentinel :=
    run_sentinel (attach document checker source settings) events
  have hinv := run_popupInvariant document checker source settings events
  rw [← hsentinel]
  refine ⟨completer.lookup_asksAtCaret, completer.perform_asksAtCaret,
    fun _ => completer.perform_checked_of_not_mayAsk,
    fun hdetach => perform_checked_of_detached (run_detached _ hdetach),
    fun _ => lookup_of_agree, completer.perform_heeds, completer.insertWord_withChecker,
    fun _ _ => rfl, completer.detach_withChecker, ?_⟩
  intro operation later hfollows followed now htext releases hreleases
  have hfollowed : followed.PopupInvariant settings (lastOwner? events) :=
    hinv.effect (completer.perform_effect operation)
  have hsettled : now.Settled :=
    hfollowed.run_settled (hinv.settled_of_follows hfollows) htext
  exact ⟨hsettled.run_releases hreleases,
    fun input hinput => hsettled.dispatch_release_eq (hreleases input hinput)⟩

/-- A letter is typed under an open popup.  Its release checks the text before
the word once, at any checker with this answer; then the selection moves, and
further releases do nothing. -/
theorem run_asks_at_caret_typed :
    let answer : Verdict := .expected { keywords := ["Person".toList, "Pet".toList] }
    let checker : Checker := fun _ => answer
    let other : Checker := fun text => if text = "not **".toList then answer else .accepted
    let source : CandidateSource := ⟨fun _ _ => [], fun entity => entity.iri⟩
    let release : KeyInput := { key := .char 'e', phase := .release }
    let releases : List KeyInput := [release, { key := .up, phase := .release }, release]
    let events : List (Event Buffer) :=
      [.operation .trigger, .change (Buffer.ofText "not Pe".toList) checker source]
    let start := attach (Buffer.ofText "not P".toList) checker source {}
    let completer := start.run events
    let followed := (completer.perform (.key release)).completer
    let now := followed.run [.operation (.moveSelection 1)]
    (completer.perform (.key release)).checked = ["not **".toList] ∧
      (completer.withChecker other).perform (.key release) =
        (completer.perform (.key release)).withChecker other ∧
      (completer.perform .accept).checked = [] ∧
      ((start.run (events ++ [.detach])).perform .trigger).checked = [] ∧
      now.popup.selectedIndex? = some 1 ∧
      now.run (releases.map fun input => .operation (.key input)) = now ∧
      ∀ input ∈ releases, now.dispatch input = ⟨false, { completer := now }⟩ := by
  intro answer checker other source release releases events start completer followed now
  obtain ⟨_, _, hsilent, _, _, hheeds, _, _, _, hreleases⟩ :=
    run_asks_at_caret (Buffer.ofText "not P".toList) checker source {} events
  obtain ⟨_, _, _, hdetached, _⟩ :=
    run_asks_at_caret (Buffer.ofText "not P".toList) checker source {} (events ++ [.detach])
  have hchecked : (completer.perform (.key release)).checked = ["not **".toList] := by decide
  refine ⟨hchecked, hheeds (.key release) other ?_, hsilent .accept rfl,
    hdetached (by simp) .trigger, by decide, ?_⟩
  · intro text hmem
    rw [hchecked, List.mem_singleton] at hmem
    rw [hmem]
    rfl
  · refine hreleases (.key release) [.operation (.moveSelection 1)] ⟨rfl, by decide, by decide⟩
      ?_ releases (by decide)
    intro middle hmiddle
    rcases List.prefix_cons_iff.1 hmiddle with rfl | ⟨rest, rfl, hrest⟩
    · decide
    · obtain rfl := List.prefix_nil.1 hrest
      decide

end Completer

end ClassExpr
