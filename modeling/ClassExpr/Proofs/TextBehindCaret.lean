/-
The text behind the caret makes no difference.

A completer reads its document up to the caret only.  At two buffers that agree
up to there it finds the same, and a trigger does the same: it leaves buffers
that agree up to their carets again, each with its own text behind it.
-/
import ClassExpr.Proofs.DocumentEffect

namespace ClassExpr

/-- The popup without the memory of the document that its list is for. -/
def Popup.unprobed (popup : Popup) : Popup :=
  { popup with session := popup.session.map fun session => { session with probed := none } }

namespace Popup

@[simp] theorem visible_unprobed (popup : Popup) : popup.unprobed.visible = popup.visible := rfl

@[simp] theorem anchor_unprobed (popup : Popup) : popup.unprobed.anchor = popup.anchor := rfl

@[simp] theorem rows_unprobed (popup : Popup) : popup.unprobed.rows = popup.rows := by
  cases hsession : popup.session <;> simp [rows, unprobed, hsession]

@[simp] theorem selectedIndex?_unprobed (popup : Popup) :
    popup.unprobed.selectedIndex? = popup.selectedIndex? := by
  cases hsession : popup.session with
  | none => simp [selectedIndex?, unprobed, hsession]
  | some session => cases hrows : session.rows <;>
      simp [selectedIndex?, unprobed, hsession, hrows, Option.filter]

theorem unprobed_hide (popup : Popup) : popup.hide.unprobed = popup.unprobed.hide := rfl

theorem unprobed_populate_noteProbe (popup : Popup) (text : Text) (candidates : List Candidate) :
    ((popup.noteProbe text).populate candidates).unprobed =
      popup.unprobed.populate candidates := by
  cases hsession : popup.session <;> simp [unprobed, noteProbe, populate, hsession]

theorem unprobed_populate_openAt {popup : Popup} (hhidden : popup.visible = false)
    (anchor : Anchor) (text : Text) (candidates : List Candidate) :
    ((popup.openAt anchor text).populate candidates).unprobed =
      populate { popup.unprobed with visible := true, anchor := some anchor } candidates := by
  cases hsession : popup.session <;> simp [unprobed, openAt, populate, hhidden, hsession]

end Popup

/-- Two buffers that agree up to their carets. -/
structure Buffer.SamePast (left right : Buffer) : Prop where
  caret : right.caret = left.caret
  past : right.text.take left.caret = left.text.take left.caret
  left_le : left.caret ≤ left.text.length
  right_le : left.caret ≤ right.text.length

/-- What is before an offset that the caret has reached is the same. -/
theorem Buffer.SamePast.take {left right : Buffer} (hpast : left.SamePast right) {offset : Nat}
    (hoffset : offset ≤ left.caret) : right.text.take offset = left.text.take offset := by
  have htake := congrArg (List.take offset) hpast.past
  rwa [List.take_take, List.take_take, Nat.min_eq_left hoffset] at htake

theorem Buffer.SamePast.anchor? {left right : Buffer} (hpast : left.SamePast right)
    (horigin : right.origin = left.origin) (hheight : right.lineHeight = left.lineHeight)
    {offset : Nat} (hoffset : offset ≤ left.caret) :
    right.anchor? offset = left.anchor? offset := by
  simp only [Buffer.anchor?, hpast.take hoffset, horigin, hheight]

namespace Completer

/-- The word at the caret of a buffer ends there, inside its text. -/
theorem partialWord_inside {completer : Completer Buffer} {found : PartialWord}
    (hfound : completer.partialWord = .ok (some found)) :
    found.caret = completer.document.caret ∧ found.start ≤ completer.document.caret ∧
      completer.document.caret ≤ completer.document.text.length :=
  Delimiters.locate_eq_some hfound

/-- After a replacement the new word ends at the caret, and behind it stands what
stood behind the caret before. -/
theorem Replaced.split {before after : Completer Buffer} {word : Text}
    (hreplaced : Replaced before after word) :
    ∃ found, before.partialWord = .ok (some found) ∧
      after.document.text = (before.document.text.take found.start ++ word) ++
        before.document.text.drop before.document.caret ∧
      (before.document.text.take found.start ++ word).length = after.document.caret := by
  obtain ⟨found, hfound, htext, hcaret⟩ := hreplaced
  obtain ⟨hend, hstart, hlength⟩ := partialWord_inside hfound
  refine ⟨found, hfound, hend ▸ htext, ?_⟩
  rw [List.length_append, List.length_take_of_le (Nat.le_trans hstart hlength), hcaret]

theorem Replaced.ahead {before after : Completer Buffer} {word : Text}
    (hreplaced : Replaced before after word) :
    after.document.text.drop after.document.caret =
        before.document.text.drop before.document.caret ∧
      after.document.caret ≤ after.document.text.length := by
  obtain ⟨found, _, htext, hhead⟩ := hreplaced.split
  rw [htext, List.drop_left' hhead, List.length_append, hhead]
  exact ⟨rfl, Nat.le_add_right _ _⟩

variable {left right : Completer Buffer}

section

variable (hdelimiters : right.delimiters = left.delimiters)
  (hpast : left.document.SamePast right.document)
include hdelimiters hpast

theorem partialWord_of_samePast : right.partialWord = left.partialWord := by
  have hcaret : Surface.caret right.document = Surface.caret left.document := hpast.caret
  have htake : (Surface.text right.document).take (Surface.caret left.document) =
      (Surface.text left.document).take (Surface.caret left.document) := hpast.past
  simp only [partialWord, Delimiters.locate, hdelimiters, hcaret, htake]

/-- The same word is found, the same query goes to the checker and the same
candidates come back. -/
theorem lookup_of_samePast (hprobe : right.probe = left.probe)
    (hsource : right.source = left.source) : right.lookup = left.lookup := by
  have hword := partialWord_of_samePast hdelimiters hpast
  unfold lookup
  rw [hword]
  cases hfound : left.partialWord with
  | error fault => rfl
  | ok found? =>
      cases found? with
      | none => rfl
      | some found =>
          obtain ⟨_, hstart, _⟩ := partialWord_inside hfound
          have hspan : Surface.span right.document 0 found.start =
              Surface.span left.document 0 found.start := by
            change Text.span right.document.text 0 found.start =
              Text.span left.document.text 0 found.start
            have hleft := hpast.left_le
            have hright := hpast.right_le
            simp only [Text.span, Nat.zero_add, List.drop_zero, hpast.take hstart]
            rw [if_neg (by omega), if_neg (by omega)]
          simp only [hspan, candidatesAfter, hprobe, hsource]

theorem popupAnchor?_of_samePast (horigin : right.document.origin = left.document.origin)
    (hheight : right.document.lineHeight = left.document.lineHeight) :
    right.popupAnchor? = left.popupAnchor? := by
  have hlines : Surface.lineHeight right.document = Surface.lineHeight left.document := hheight
  unfold popupAnchor?
  rw [partialWord_of_samePast hdelimiters hpast]
  cases hfound : left.partialWord with
  | error fault => rfl
  | ok found? =>
      cases found? with
      | none => rfl
      | some found =>
          obtain ⟨_, hstart, _⟩ := partialWord_inside hfound
          have hanchor : Surface.anchor? right.document found.start =
              Surface.anchor? left.document found.start :=
            hpast.anchor? horigin hheight hstart
          simp only [hanchor, hlines]

/-- Replacing the word by the same word leaves buffers that agree again. -/
theorem samePast_of_replaced {left' right' : Completer Buffer} {word : Text}
    (hleft : Replaced left left' word) (hright : Replaced right right' word) :
    left'.document.SamePast right'.document := by
  have hleftEnd := hleft.ahead.2
  have hrightEnd := hright.ahead.2
  obtain ⟨found, hfound, htext, hhead⟩ := hleft.split
  obtain ⟨found', hfound', htext', hhead'⟩ := hright.split
  rw [partialWord_of_samePast hdelimiters hpast, hfound] at hfound'
  obtain rfl := Option.some.inj (Except.ok.inj hfound')
  obtain ⟨_, hstart, _⟩ := partialWord_inside hfound
  rw [hpast.take hstart] at htext' hhead'
  have hsame : right'.document.caret = left'.document.caret := hhead'.symm.trans hhead
  refine ⟨hsame, ?_, hleftEnd, hsame ▸ hrightEnd⟩
  rw [htext, htext', List.take_left' hhead, List.take_left' hhead]

omit hdelimiters in
theorem samePast_of_untouched {left' right' : Completer Buffer} (hleft : Untouched left left')
    (hright : Untouched right right') : left'.document.SamePast right'.document := by
  obtain ⟨htext, hcaret⟩ := hleft
  obtain ⟨htext', hcaret'⟩ := hright
  constructor
  · rw [hcaret, hcaret', hpast.caret]
  · rw [htext, htext', hcaret, hpast.past]
  · rw [htext, hcaret]
    exact hpast.left_le
  · rw [htext', hcaret]
    exact hpast.right_le

end

/-- Whatever an operation does, the text behind the caret stays. -/
theorem Effect.ahead {completer : Completer Buffer} {reaction : Reaction Buffer}
    (heffect : Effect completer reaction) :
    reaction.completer.document.text.drop reaction.completer.document.caret =
      completer.document.text.drop completer.document.caret := by
  rcases heffect.document with ⟨_, _, hreplaced, _⟩ | ⟨_, htext, hcaret⟩
  · exact hreplaced.ahead.1
  · rw [htext, hcaret]

/-- Operations with the same outcome at buffers with the same past leave buffers
with the same past. -/
theorem Effect.samePast (hdelimiters : right.delimiters = left.delimiters)
    (hpast : left.document.SamePast right.document) {leftwards rightwards : Reaction Buffer}
    (hleft : Effect left leftwards) (hright : Effect right rightwards)
    (houtcome : rightwards.outcome = leftwards.outcome) :
    leftwards.completer.document.SamePast rightwards.completer.document := by
  rcases hleft.document with ⟨word, hinserted, hreplaced, _⟩ | ⟨hother, huntouched⟩
  · rcases hright.document with ⟨word', hinserted', hreplaced', _⟩ | ⟨hother', _⟩
    · obtain rfl : word' = word :=
        Outcome.inserted.inj (hinserted'.symm.trans (houtcome.trans hinserted))
      exact samePast_of_replaced hdelimiters hpast hreplaced hreplaced'
    · exact absurd (houtcome.trans hinserted) (hother' word)
  · rcases hright.document with ⟨word', hinserted', _⟩ | ⟨_, huntouched'⟩
    · exact absurd (houtcome.symm.trans hinserted') (hother word')
    · exact samePast_of_untouched hpast huntouched huntouched'

/-- The same answer, and the same popup but for the document it remembers. -/
structure SameAnswer (left right : Reaction Buffer) : Prop where
  outcome : right.outcome = left.outcome
  checked : right.checked = left.checked
  popup : right.completer.popup.unprobed = left.completer.popup.unprobed

section

variable (hpopup : right.popup.unprobed = left.popup.unprobed)
include hpopup

theorem complete_sameAnswer (hword : right.partialWord = left.partialWord) (word : Text)
    (checked : List Text) :
    SameAnswer (left.complete word checked) (right.complete word checked) := by
  obtain ⟨_, hleft⟩ := left.complete_eq word checked
  obtain ⟨_, hright⟩ := right.complete_eq word checked
  refine ⟨?_, rfl, by rw [hleft, hright, Popup.unprobed_hide, hpopup, Popup.unprobed_hide]⟩
  -- Both have a word at the caret or none has.
  rcases left.complete_replaced_or_untouched word checked with
    ⟨houtcome, found, hfound, _⟩ | ⟨houtcome, hnone, _⟩
  · rcases right.complete_replaced_or_untouched word checked with
      ⟨houtcome', _⟩ | ⟨_, hnone', _⟩
    · rw [houtcome, houtcome']
    · exact absurd (hword.trans hfound) (hnone' found)
  · rcases right.complete_replaced_or_untouched word checked with
      ⟨_, found, hfound, _⟩ | ⟨houtcome', _⟩
    · exact absurd (hword.symm.trans hfound) (hnone found)
    · rw [houtcome, houtcome']

theorem offer_sameAnswer (hanchor : right.popupAnchor? = left.popupAnchor?) (found : Lookup) :
    SameAnswer (left.offer found) (right.offer found) := by
  have hvisible : right.popup.visible = left.popup.visible := by
    simpa using congrArg Popup.visible hpopup
  unfold offer
  dsimp only
  rw [hvisible, hanchor]
  cases hshown : left.popup.visible with
  | true =>
      refine ⟨rfl, rfl, ?_⟩
      simp only [if_true, Popup.unprobed_populate_noteProbe, hpopup]
  | false =>
      cases left.popupAnchor? with
      | none => exact ⟨rfl, rfl, hpopup⟩
      | some anchor =>
          refine ⟨rfl, rfl, ?_⟩
          simp only [Bool.false_eq_true, if_false, Popup.unprobed_populate_openAt hshown,
            Popup.unprobed_populate_openAt (hvisible.trans hshown), hpopup]

theorem trigger_sameAnswer (hattached : right.attached = left.attached)
    (hlookup : right.lookup = left.lookup) (hword : right.partialWord = left.partialWord)
    (hanchor : right.popupAnchor? = left.popupAnchor?) :
    SameAnswer left.trigger right.trigger := by
  unfold trigger
  rw [hattached, hlookup]
  cases left.attached with
  | false => exact ⟨rfl, rfl, hpopup⟩
  | true =>
      dsimp only
      cases left.lookup.candidates with
      | nil => exact ⟨rfl, rfl, hpopup⟩
      | cons first rest =>
          cases rest with
          | nil => exact complete_sameAnswer hpopup hword _ _
          | cons second rest => exact offer_sameAnswer hpopup hanchor _

end

/-- At two buffers with the same text up to their carets a completer finds the
same candidates by the same query.  A trigger reports the same and leaves the
same rows, selection and place of the popup, and buffers that agree up to their
carets again, each with the text behind it that it had. -/
theorem trigger_of_samePast (left right : Completer Buffer)
    (hdelimiters : right.delimiters = left.delimiters) (hprobe : right.probe = left.probe)
    (hsource : right.source = left.source)
    (hpast : left.document.SamePast right.document) :
    right.lookup = left.lookup ∧
      (right.attached = left.attached → right.popup.unprobed = left.popup.unprobed →
        right.document.origin = left.document.origin →
        right.document.lineHeight = left.document.lineHeight →
        let leftwards := left.trigger
        let rightwards := right.trigger
        rightwards.outcome = leftwards.outcome ∧ rightwards.checked = leftwards.checked ∧
          rightwards.completer.popup.unprobed = leftwards.completer.popup.unprobed ∧
          rightwards.completer.popup.rows = leftwards.completer.popup.rows ∧
          rightwards.completer.popup.selectedIndex? = leftwards.completer.popup.selectedIndex? ∧
          rightwards.completer.popup.anchor = leftwards.completer.popup.anchor ∧
          leftwards.completer.document.SamePast rightwards.completer.document ∧
          leftwards.completer.document.text.drop leftwards.completer.document.caret =
            left.document.text.drop left.document.caret ∧
          rightwards.completer.document.text.drop rightwards.completer.document.caret =
            right.document.text.drop left.document.caret) := by
  have hlookup := lookup_of_samePast hdelimiters hpast hprobe hsource
  refine ⟨hlookup, ?_⟩
  intro hattached hpopup horigin hheight leftwards rightwards
  have hanswer : SameAnswer leftwards rightwards :=
    trigger_sameAnswer hpopup hattached hlookup (partialWord_of_samePast hdelimiters hpast)
      (popupAnchor?_of_samePast hdelimiters hpast horigin hheight)
  refine ⟨hanswer.outcome, hanswer.checked, hanswer.popup, ?_, ?_, ?_, ?_,
    left.trigger_effect.ahead, ?_⟩
  · simpa using congrArg Popup.rows hanswer.popup
  · simpa using congrArg Popup.selectedIndex? hanswer.popup
  · simpa using congrArg Popup.anchor hanswer.popup
  · exact left.trigger_effect.samePast hdelimiters hpast right.trigger_effect hanswer.outcome
  · rw [← hpast.caret]
    exact right.trigger_effect.ahead

/-- A word is inserted in front of two different rests, under popups that
remember different documents. -/
theorem trigger_of_samePast_inserted :
    let checker : Checker := fun _ => .expected { keywords := ["Person".toList] }
    let source : CandidateSource := ⟨fun _ _ => [], fun entity => entity.iri⟩
    let shown := fun probed : Text =>
      (((Popup.hidden {} 100).openAt ⟨4, 1⟩ probed).populate [.keyword "Pet".toList])
    let completer := fun (text probed : Text) =>
      { attach ((Buffer.ofText text).withCaret 5) checker source {} with popup := shown probed }
    let left := completer "not P and x".toList "not P".toList
    let right := completer "not Piece".toList []
    left.document.SamePast right.document ∧ right.lookup = left.lookup ∧
      right.trigger.outcome = left.trigger.outcome ∧
      left.trigger.outcome = .inserted "Person".toList ∧
      left.trigger.completer.document.SamePast right.trigger.completer.document ∧
      left.trigger.completer.document.text.drop left.trigger.completer.document.caret =
        " and x".toList ∧
      right.trigger.completer.document.text.drop right.trigger.completer.document.caret =
        "iece".toList := by
  intro checker source shown completer left right
  have hpast : left.document.SamePast right.document :=
    ⟨rfl, by decide, by decide, by decide⟩
  obtain ⟨hlookup, htrigger⟩ := trigger_of_samePast left right rfl rfl rfl hpast
  obtain ⟨houtcome, _, _, _, _, _, hsame, hleft, hright⟩ := htrigger rfl (by decide) rfl rfl
  exact ⟨hpast, hlookup, houtcome, by decide, hsame, hleft, hright⟩

end Completer

end ClassExpr
