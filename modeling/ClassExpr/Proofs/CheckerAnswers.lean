/-
What a completer learns from its checker.

Every operation tells which texts it had checked, and the answers to these are
all that it learns.  At another checker with the same answers it does the same;
an operation that has nothing checked does the same at every checker.
-/
import ClassExpr.Proofs.CompleterRun

namespace ClassExpr

variable {σ : Type}

namespace Completer

def withChecker (completer : Completer σ) (checker : Checker) : Completer σ :=
  { completer with probe := { completer.probe with checker } }

@[simp] theorem document_withChecker (completer : Completer σ) (checker : Checker) :
    (completer.withChecker checker).document = completer.document := rfl

@[simp] theorem popup_withChecker (completer : Completer σ) (checker : Checker) :
    (completer.withChecker checker).popup = completer.popup := rfl

@[simp] theorem attached_withChecker (completer : Completer σ) (checker : Checker) :
    (completer.withChecker checker).attached = completer.attached := rfl

@[simp] theorem dismissWhenEmpty_withChecker (completer : Completer σ) (checker : Checker) :
    (completer.withChecker checker).dismissWhenEmpty = completer.dismissWhenEmpty := rfl

theorem detach_withChecker (completer : Completer σ) (checker : Checker) :
    (completer.withChecker checker).detach = completer.detach.withChecker checker := by
  unfold detach
  rw [attached_withChecker]
  cases completer.attached with
  | false => rfl
  | true => rfl

end Completer

def Reaction.withChecker (reaction : Reaction σ) (checker : Checker) : Reaction σ :=
  { reaction with completer := reaction.completer.withChecker checker }

namespace Completer

/-- What an operation learns from the checker is its answers to the texts that
were checked: at a checker with the same answers it does the same. -/
def Heeds (completer : Completer σ) (operate : Completer σ → Reaction σ) : Prop :=
  ∀ other : Checker,
    (∀ text ∈ (operate completer).checked, other text = completer.probe.checker text) →
      operate (completer.withChecker other) = (operate completer).withChecker other

theorem dismiss_withChecker (completer : Completer σ) (checker : Checker) :
    (completer.withChecker checker).dismiss = completer.dismiss.withChecker checker := by
  unfold dismiss
  rw [popup_withChecker]
  cases completer.popup.visible with
  | false => rfl
  | true => rfl

theorem moveSelection_withChecker (completer : Completer σ) (checker : Checker) (delta : Int) :
    (completer.withChecker checker).moveSelection delta =
      (completer.moveSelection delta).withChecker checker := by
  unfold moveSelection
  rw [attached_withChecker, popup_withChecker]
  split
  · rfl
  · rfl

theorem candidatesAfter_checked (completer : Completer σ) (before word : Text) :
    (completer.candidatesAfter before word).checked = [completer.probe.query before] := by
  unfold candidatesAfter
  dsimp only
  split
  · rfl
  · rfl

theorem candidatesAfter_of_agree {completer : Completer σ} {other : Checker} {before : Text}
    (hagree : other (completer.probe.query before) =
      completer.probe.checker (completer.probe.query before)) (word : Text) :
    (completer.withChecker other).candidatesAfter before word =
      completer.candidatesAfter before word := by
  have hquery : (completer.withChecker other).probe.query before =
      completer.probe.query before := rfl
  have hask : (completer.withChecker other).probe.ask before = completer.probe.ask before := by
    unfold Probe.ask
    rw [hquery, ← hagree]
    rfl
  unfold candidatesAfter
  rw [hask]
  rfl

variable [Surface σ]

theorem partialWord_withChecker (completer : Completer σ) (checker : Checker) :
    (completer.withChecker checker).partialWord = completer.partialWord := rfl

theorem isStale_withChecker (completer : Completer σ) (checker : Checker) :
    (completer.withChecker checker).isStale = completer.isStale := rfl

theorem insertWord_withChecker (completer : Completer σ) (checker : Checker) (word : Text) :
    (completer.withChecker checker).insertWord word =
      ((completer.insertWord word).1.withChecker checker, (completer.insertWord word).2) := by
  unfold insertWord
  rw [partialWord_withChecker]
  cases completer.partialWord with
  | error fault => rfl
  | ok word? =>
      cases word? with
      | none => rfl
      | some found => rfl

theorem complete_withChecker (completer : Completer σ) (checker : Checker) (word : Text)
    (checked : List Text) :
    (completer.withChecker checker).complete word checked =
      (completer.complete word checked).withChecker checker := by
  unfold complete
  rw [insertWord_withChecker]
  rfl

theorem offer_withChecker (completer : Completer σ) (checker : Checker) (found : Lookup) :
    (completer.withChecker checker).offer found =
      (completer.offer found).withChecker checker := by
  have hanchor : (completer.withChecker checker).popupAnchor? = completer.popupAnchor? := rfl
  unfold offer
  dsimp only
  rw [hanchor, popup_withChecker]
  cases completer.popup.visible with
  | true => rfl
  | false =>
      cases completer.popupAnchor? with
      | none => rfl
      | some anchor => rfl

/-- The candidates depend on the answer to the one query. -/
theorem lookup_of_agree {completer : Completer σ} {other : Checker}
    (hagree : ∀ text ∈ completer.lookup.checked, other text = completer.probe.checker text) :
    (completer.withChecker other).lookup = completer.lookup := by
  unfold lookup at hagree ⊢
  rw [partialWord_withChecker]
  cases hword : completer.partialWord with
  | error fault => rfl
  | ok word? =>
      cases word? with
      | none => rfl
      | some word =>
          rw [hword] at hagree
          dsimp only at hagree ⊢
          rw [document_withChecker]
          cases hspan : Surface.span completer.document 0 word.start with
          | error fault => rfl
          | ok before =>
              rw [hspan] at hagree
              dsimp only at hagree ⊢
              rw [candidatesAfter_checked] at hagree
              exact candidatesAfter_of_agree (hagree _ (List.mem_singleton_self _)) word.text

theorem trigger_checked {completer : Completer σ} (hattached : completer.attached = true) :
    completer.trigger.checked = completer.lookup.checked := by
  unfold trigger
  rw [if_neg (by simp [hattached])]
  dsimp only
  split
  · rfl
  · rfl
  · unfold offer
    dsimp only
    split
    · rfl
    · split
      · rfl
      · rfl

theorem refresh_checked {completer : Completer σ}
    (hopen : ¬(!completer.attached || !completer.popup.visible) = true) :
    completer.refresh.checked = completer.lookup.checked := by
  unfold refresh
  rw [if_neg hopen]
  dsimp only
  split
  · rfl
  · rfl

theorem trigger_heeds (completer : Completer σ) : completer.Heeds trigger := by
  intro other hagree
  unfold trigger
  rw [attached_withChecker]
  cases hattached : completer.attached with
  | false => rfl
  | true =>
      rw [trigger_checked hattached] at hagree
      rw [lookup_of_agree hagree]
      dsimp only
      cases completer.lookup.candidates with
      | nil => rfl
      | cons first rest =>
          cases rest with
          | nil => exact completer.complete_withChecker other _ _
          | cons second rest => exact completer.offer_withChecker other _

theorem refresh_heeds (completer : Completer σ) : completer.Heeds refresh := by
  intro other hagree
  unfold refresh
  rw [attached_withChecker, popup_withChecker]
  by_cases hclosed : (!completer.attached || !completer.popup.visible) = true
  · rw [if_pos hclosed, if_pos hclosed]
    rfl
  · rw [refresh_checked hclosed] at hagree
    rw [if_neg hclosed, if_neg hclosed, lookup_of_agree hagree]
    dsimp only
    rw [dismissWhenEmpty_withChecker]
    split
    · rfl
    · rfl

theorem refreshIfStale_heeds (completer : Completer σ) : completer.Heeds refreshIfStale := by
  intro other hagree
  unfold refreshIfStale at hagree ⊢
  rw [isStale_withChecker, popup_withChecker]
  by_cases hstale : (completer.popup.visible && completer.isStale) = true
  · rw [if_pos hstale] at hagree ⊢
    rw [if_pos hstale]
    exact completer.refresh_heeds other hagree
  · rw [if_neg hstale, if_neg hstale]
    rfl

theorem accept_withChecker (completer : Completer σ) (checker : Checker) :
    (completer.withChecker checker).accept = completer.accept.withChecker checker := by
  unfold accept
  rw [attached_withChecker, popup_withChecker]
  split
  · rfl
  · cases completer.popup.selected? with
    | none => rfl
    | some candidate => exact completer.complete_withChecker checker candidate.insertion []

theorem acceptRow_withChecker (completer : Completer σ) (checker : Checker) (row : Nat) :
    (completer.withChecker checker).acceptRow row =
      (completer.acceptRow row).withChecker checker := by
  unfold acceptRow
  rw [attached_withChecker, popup_withChecker]
  split
  · cases completer.popup.select? row with
    | none => rfl
    | some popup => exact accept_withChecker { completer with popup } checker
  · rfl

theorem press_heeds (completer : Completer σ) (input : KeyInput) :
    completer.Heeds fun completer => (completer.press input).reaction := by
  intro other hagree
  dsimp only at hagree ⊢
  unfold press at hagree ⊢
  rw [popup_withChecker]
  cases hshortcut : input.isShortcut with
  | true =>
      rw [hshortcut] at hagree
      exact completer.trigger_heeds other hagree
  | false =>
      cases hkey : input.key with
      | tab =>
          rw [hshortcut, hkey] at hagree
          exact completer.trigger_heeds other hagree
      | enter =>
          cases completer.popup.visible with
          | true => exact completer.accept_withChecker other
          | false => rfl
      | escape =>
          cases completer.popup.visible with
          | true => exact completer.dismiss_withChecker other
          | false => rfl
      | down =>
          cases completer.popup.visible with
          | true => exact completer.moveSelection_withChecker other 1
          | false => rfl
      | up =>
          cases completer.popup.visible with
          | true => exact completer.moveSelection_withChecker other (-1)
          | false => rfl
      | left => exact completer.dismiss_withChecker other
      | right => exact completer.dismiss_withChecker other
      | _ => rfl

theorem release_heeds (completer : Completer σ) (input : KeyInput) :
    completer.Heeds fun completer => (completer.release input).reaction := by
  intro other hagree
  dsimp only at hagree ⊢
  unfold release at hagree ⊢
  cases hkey : input.key with
  | up => rfl
  | down => rfl
  | _ =>
      rw [hkey] at hagree
      exact completer.refreshIfStale_heeds other hagree

theorem dispatch_heeds (completer : Completer σ) (input : KeyInput) :
    completer.Heeds fun completer => (completer.dispatch input).reaction := by
  intro other hagree
  dsimp only at hagree ⊢
  unfold dispatch at hagree ⊢
  rw [attached_withChecker]
  cases hattached : completer.attached with
  | false => rfl
  | true =>
      rw [hattached] at hagree
      cases hphase : input.phase with
      | press =>
          rw [hphase] at hagree
          exact completer.press_heeds input other hagree
      | release =>
          rw [hphase] at hagree
          exact completer.release_heeds input other hagree

/-- No operation learns more from the checker than the answer to what it had
checked. -/
theorem perform_heeds (completer : Completer σ) (operation : Operation) :
    completer.Heeds (·.perform operation) := by
  intro other hagree
  cases operation with
  | trigger => exact completer.trigger_heeds other hagree
  | refresh => exact completer.refresh_heeds other hagree
  | refreshIfStale => exact completer.refreshIfStale_heeds other hagree
  | accept => exact completer.accept_withChecker other
  | dismiss => exact completer.dismiss_withChecker other
  | moveSelection delta => exact completer.moveSelection_withChecker other delta
  | acceptRow row => exact completer.acceptRow_withChecker other row
  | key input => exact completer.dispatch_heeds input other hagree

end Completer

end ClassExpr
