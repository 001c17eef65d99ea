/-
What holds of a buffer however it was edited.

The caret is in the text.  An edit is refused exactly if it names a place
behind the text, and then nothing has changed.  A deletion takes its characters
out of the text before the caret and out of the text behind it, and the caret
stays between the two.  A deletion takes an insertion back, and an insertion of
what was deleted takes the deletion back.
-/
import ClassExpr.Proofs.BufferEdits

namespace ClassExpr

namespace Text

/-- A piece of a text that begins at the offset `base`, without its characters
at the offsets from `start` up to `stop`. -/
def without (piece : Text) (base start stop : Nat) : Text :=
  ((piece.zipIdx base).filter fun numbered =>
    numbered.2 < start || stop ≤ numbered.2).map Prod.fst

theorem without_cons (c : Char) (rest : Text) (base start stop : Nat) :
    without (c :: rest) base start stop =
      if base < start ∨ stop ≤ base then c :: without rest (base + 1) start stop
      else without rest (base + 1) start stop := by
  rw [without, List.zipIdx_cons, List.filter_cons]
  by_cases hkept : base < start ∨ stop ≤ base
  · simp [hkept, without]
  · simp [hkept, without]

theorem without_append (front rest : Text) (base start stop : Nat) :
    without (front ++ rest) base start stop =
      front.without base start stop ++ rest.without (base + front.length) start stop := by
  simp [without, List.zipIdx_append]

/-- What is left are the characters before the first offset and those from the
last one on. -/
theorem without_eq (piece : Text) (base : Nat) {start stop : Nat} (hrange : start ≤ stop) :
    piece.without base start stop =
      piece.take (start - base) ++ piece.drop (stop - base) := by
  induction piece generalizing base with
  | nil => simp [without]
  | cons c rest ih =>
      rw [without_cons, ih]
      by_cases hbefore : base < start
      · have hstart : start - base = start - (base + 1) + 1 := by omega
        have hstop : stop - base = stop - (base + 1) + 1 := by omega
        rw [if_pos (Or.inl hbefore), hstart, hstop]
        rfl
      · have hstart : start - base = 0 := by omega
        have hstart' : start - (base + 1) = 0 := by omega
        rw [hstart, hstart', List.take_zero, List.take_zero]
        by_cases hbehind : stop ≤ base
        · have hstop : stop - base = 0 := by omega
          have hstop' : stop - (base + 1) = 0 := by omega
          rw [if_pos (Or.inr hbehind), hstop, hstop']
          rfl
        · have hstop : stop - base = stop - (base + 1) + 1 := by omega
          rw [if_neg (by omega), hstop]
          rfl

end Text

namespace Edited

variable {σ : Type}

/-- An edit that is refused exactly on a condition, and then leaves the document
as it was. -/
structure RefusedIff (edited : Edited σ) (before : σ) (condition : Prop) : Prop where
  fault? : edited.fault? ≠ none ↔ condition
  document : edited.fault? ≠ none → edited.document = before

theorem refusedIff_of_cases {edited : Edited σ} {before : σ} {fault : Fault} {condition : Prop}
    (hrefused : condition → edited = refused before fault)
    (hdone : ¬ condition → edited.fault? = none) : edited.RefusedIff before condition := by
  by_cases hcondition : condition
  · rw [hrefused hcondition]
    exact ⟨iff_of_true (Option.some_ne_none fault) hcondition, fun _ => rfl⟩
  · have hnone := hdone hcondition
    exact ⟨iff_of_false (not_not_intro hnone) hcondition, fun hfault => absurd hnone hfault⟩

/-- An edit that is carried out and leaves a certain text. -/
def Leaves (edited : Edited Buffer) (text : Text) : Prop :=
  edited.fault? = none ∧ edited.document.text = text

end Edited

namespace Buffer

/-- What can be done to a buffer. -/
inductive Edit where
  | withCaret (caret : Nat)
  | setText (text : Text)
  | type (typed : Text)
  | setCaret (offset : Nat)
  | insert (offset : Nat) (word : Text)
  | remove (start length : Nat)

def edit (buffer : Buffer) : Edit → Buffer
  | .withCaret caret => buffer.withCaret caret
  | .setText text => buffer.setText text
  | .type typed => buffer.type typed
  | .setCaret offset => (buffer.setCaret offset).document
  | .insert offset word => (buffer.insert offset word).document
  | .remove start length => (buffer.remove start length).document

def run (buffer : Buffer) (edits : List Edit) : Buffer :=
  edits.foldl edit buffer

/-- What holds of a buffer whose caret is in the text. -/
structure EditLaws (buffer : Buffer) : Prop where
  caret_le : buffer.caret ≤ buffer.text.length
  remove_refused : ∀ start length,
    (buffer.remove start length).RefusedIff buffer (buffer.text.length < start + length)
  insert_refused : ∀ offset word,
    (buffer.insert offset word).RefusedIff buffer (buffer.text.length < offset)
  setCaret_refused : ∀ offset,
    (buffer.setCaret offset).RefusedIff buffer (buffer.text.length < offset)
  /-- The text before the caret loses what it has of the range, and so does the
  text behind it. -/
  remove_caret : ∀ start length, (buffer.remove start length).fault? = none →
    let after := (buffer.remove start length).document
    after.text.take after.caret =
        Text.without (buffer.text.take buffer.caret) 0 start (start + length) ∧
      after.text.drop after.caret =
        Text.without (buffer.text.drop buffer.caret) buffer.caret start (start + length)
  insert_remove : ∀ offset word, offset ≤ buffer.text.length →
    ((buffer.insert offset word).andThen fun after =>
      after.remove offset word.length).Leaves buffer.text
  remove_insert : ∀ start length, start + length ≤ buffer.text.length →
    ∃ piece, Surface.span buffer start length = .ok piece ∧
      ((buffer.remove start length).andThen fun after =>
        after.insert start piece).Leaves buffer.text

variable {buffer : Buffer}

/-- The caret is behind what is left of the text before it. -/
theorem caretAfterRemoval_eq (caret : Nat) {start stop : Nat} (hrange : start ≤ stop) :
    caretAfterRemoval caret start stop = min start caret + (caret - stop) := by
  unfold caretAfterRemoval
  split
  · omega
  · split <;> omega

theorem caret_le_edit (hcaret : buffer.caret ≤ buffer.text.length) (edit : Edit) :
    (buffer.edit edit).caret ≤ (buffer.edit edit).text.length := by
  cases edit with
  | withCaret caret => exact Nat.min_le_right _ _
  | setText text => exact Nat.min_le_right _ _
  | type typed =>
      rw [Buffer.edit, buffer.type_eq hcaret]
      simp only [List.length_append, List.length_take_of_le hcaret]
      omega
  | setCaret offset =>
      rw [Buffer.edit]
      by_cases hoffset : offset ≤ buffer.text.length
      · rw [buffer.setCaret_eq hoffset]
        exact hoffset
      · rw [buffer.setCaret_of_lt (Nat.lt_of_not_le hoffset)]
        exact hcaret
  | insert offset word =>
      rw [Buffer.edit]
      by_cases hoffset : offset ≤ buffer.text.length
      · rw [buffer.insert_eq hoffset]
        simp only [List.length_append, List.length_take_of_le hoffset]
        omega
      · rw [buffer.insert_of_lt (Nat.lt_of_not_le hoffset)]
        exact hcaret
  | remove start length =>
      rw [Buffer.edit]
      by_cases hrange : start + length ≤ buffer.text.length
      · rw [buffer.remove_eq hrange]
        simp only [caretAfterRemoval_eq buffer.caret (Nat.le_add_right start length),
          List.length_append, List.length_drop, List.length_take]
        omega
      · rw [buffer.remove_of_lt (Nat.lt_of_not_le hrange)]
        exact hcaret

theorem caret_le_run (hcaret : buffer.caret ≤ buffer.text.length) (edits : List Edit) :
    (buffer.run edits).caret ≤ (buffer.run edits).text.length := by
  induction edits generalizing buffer with
  | nil => exact hcaret
  | cons edit edits ih => exact ih (caret_le_edit hcaret edit)

theorem remove_refusedIff (buffer : Buffer) (start length : Nat) :
    (buffer.remove start length).RefusedIff buffer (buffer.text.length < start + length) := by
  apply Edited.refusedIff_of_cases buffer.remove_of_lt
  intro hrange
  rw [buffer.remove_eq (Nat.not_lt.1 hrange)]

theorem insert_refusedIff (buffer : Buffer) (offset : Nat) (word : Text) :
    (buffer.insert offset word).RefusedIff buffer (buffer.text.length < offset) := by
  apply Edited.refusedIff_of_cases fun hrange => buffer.insert_of_lt hrange word
  intro hrange
  rw [buffer.insert_eq (Nat.not_lt.1 hrange)]

theorem setCaret_refusedIff (buffer : Buffer) (offset : Nat) :
    (buffer.setCaret offset).RefusedIff buffer (buffer.text.length < offset) := by
  apply Edited.refusedIff_of_cases buffer.setCaret_of_lt
  intro hrange
  rw [buffer.setCaret_eq (Nat.not_lt.1 hrange)]

/-- A deletion cuts the text at the caret into what is left of its two sides. -/
theorem remove_cut (hcaret : buffer.caret ≤ buffer.text.length) {start length : Nat}
    (hrange : start + length ≤ buffer.text.length) :
    let after := (buffer.remove start length).document
    let front := Text.without (buffer.text.take buffer.caret) 0 start (start + length)
    after.caret = front.length ∧
      after.text = front ++
        Text.without (buffer.text.drop buffer.caret) buffer.caret start (start + length) := by
  intro after front
  have horder := Nat.le_add_right start length
  have hafter : after = { buffer with
      text := buffer.text.take start ++ buffer.text.drop (start + length)
      caret := caretAfterRemoval buffer.caret start (start + length) } := by
    change (buffer.remove start length).document = _
    rw [buffer.remove_eq hrange]
  rw [hafter]
  constructor
  · -- Both count the characters before the caret that are not in the range.
    change caretAfterRemoval buffer.caret start (start + length) = front.length
    have hfront : front = _ := Text.without_eq (buffer.text.take buffer.caret) 0 horder
    rw [hfront, caretAfterRemoval_eq buffer.caret horder, List.length_append, List.length_take,
      List.length_drop, List.length_take_of_le hcaret, Nat.sub_zero, Nat.sub_zero]
  · have hwhole := Text.without_append (buffer.text.take buffer.caret)
      (buffer.text.drop buffer.caret) 0 start (start + length)
    rw [List.take_append_drop, Text.without_eq buffer.text 0 horder,
      List.length_take_of_le hcaret, Nat.zero_add] at hwhole
    exact hwhole

theorem insert_remove_leaves (buffer : Buffer) {offset : Nat}
    (hoffset : offset ≤ buffer.text.length) (word : Text) :
    ((buffer.insert offset word).andThen fun after =>
      after.remove offset word.length).Leaves buffer.text := by
  have hfront := List.length_take_of_le hoffset
  have hboth : (buffer.text.take offset ++ word).length = offset + word.length := by
    rw [List.length_append, hfront]
  rw [buffer.insert_eq hoffset, Edited.andThen_done, remove_eq]
  · refine ⟨rfl, ?_⟩
    dsimp only
    rw [List.drop_left' hboth, List.append_assoc, List.take_left' hfront,
      List.take_append_drop]
  · dsimp only
    rw [List.length_append, hboth]
    exact Nat.le_add_right _ _

theorem remove_insert_leaves (buffer : Buffer) {start length : Nat}
    (hrange : start + length ≤ buffer.text.length) :
    ∃ piece, Surface.span buffer start length = .ok piece ∧
      ((buffer.remove start length).andThen fun after =>
        after.insert start piece).Leaves buffer.text := by
  have hfront := List.length_take_of_le (Nat.le_trans (Nat.le_add_right start length) hrange)
  refine ⟨(buffer.text.drop start).take length, Text.span_eq hrange, ?_⟩
  rw [buffer.remove_eq hrange, Edited.andThen_done, insert_eq]
  · refine ⟨rfl, ?_⟩
    dsimp only
    rw [List.take_left' hfront, List.drop_left' hfront, ← List.take_add, List.take_append_drop]
  · dsimp only
    rw [List.length_append, hfront]
    exact Nat.le_add_right _ _

/-- A buffer that was made of a text and edited in any way keeps the laws of
editing. -/
theorem run_editLaws (text : Text) (origin : Option Anchor) (lineHeight : Int)
    (edits : List Edit) :
    (run { ofText text with origin, lineHeight } edits).EditLaws := by
  let start : Buffer := { ofText text with origin, lineHeight }
  have hstart : start.caret ≤ start.text.length := Nat.le_refl _
  have hcaret := caret_le_run hstart edits
  exact
    { caret_le := hcaret
      remove_refused := remove_refusedIff _
      insert_refused := insert_refusedIff _
      setCaret_refused := setCaret_refusedIff _
      remove_caret := by
        intro start length hdone after
        have hrange := mt (remove_refusedIff _ start length).fault?.2 (not_not_intro hdone)
        obtain ⟨hplace, htext⟩ := remove_cut hcaret (Nat.not_lt.1 hrange)
        rw [hplace, htext, List.take_left, List.drop_left]
        exact ⟨rfl, rfl⟩
      insert_remove := fun _ word hoffset => insert_remove_leaves _ hoffset word
      remove_insert := fun _ _ hrange => remove_insert_leaves _ hrange }

/-- The caret is inside the range that is deleted, between characters of one,
two and three bytes.  A range whose end needs more than 64 bits is refused. -/
theorem run_editLaws_inside :
    let buffer := run { ofText "Ärger".toList with origin := none, lineHeight := 2 }
      [.type " 漢Ü b".toList, .remove 40 1, .setCaret 8]
    let after := (buffer.remove 5 4).document
    buffer.text = "Ärger 漢Ü b".toList ∧ (buffer.remove 5 4).fault? = none ∧
      after.text.take after.caret = "Ärger".toList ∧ after.text.drop after.caret = "b".toList ∧
      (buffer.remove 5 18446744073709551615).document = buffer ∧
      ((buffer.remove 5 4).andThen fun after => after.insert 5 " 漢Ü ".toList).Leaves
        "Ärger 漢Ü b".toList := by
  intro buffer after
  have hlaws := run_editLaws "Ärger".toList none 2
    [.type " 漢Ü b".toList, .remove 40 1, .setCaret 8]
  have htext : buffer.text = "Ärger 漢Ü b".toList := by decide +kernel
  have hdone : (buffer.remove 5 4).fault? = none := by decide +kernel
  have hbehind : buffer.text.length < 5 + 18446744073709551615 := by decide +kernel
  have hrefused := hlaws.remove_refused 5 18446744073709551615
  obtain ⟨hbefore, hafter⟩ := hlaws.remove_caret 5 4 hdone
  have hrange : 5 + 4 ≤ buffer.text.length := by decide +kernel
  obtain ⟨piece, hpiece, hleaves⟩ := hlaws.remove_insert 5 4 hrange
  have hspan : Surface.span buffer 5 4 = .ok " 漢Ü ".toList :=
    (Text.span_eq hrange).trans (congrArg Except.ok (by decide +kernel))
  obtain rfl := Except.ok.inj (hspan.symm.trans hpiece)
  exact ⟨htext, hdone, hbefore.trans (by decide +kernel), hafter.trans (by decide +kernel),
    hrefused.document (hrefused.fault?.2 hbehind), htext ▸ hleaves⟩

end Buffer

end ClassExpr
