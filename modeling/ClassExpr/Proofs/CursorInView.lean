/-
The part of a text that a pane shows.

Drawing scrolls the text as little as it can to have the cursor in view.  The
scroll is kept while the text is edited and the cursor moved, and only the next
drawing follows them.  In a line of characters of one column, the place of the
cursor is then a cell that the text was drawn in.
-/
import ClassExpr.Proofs.PaneEdits

namespace ClassExpr

namespace Text

/-! ### Characters of one column -/

theorem ne_joiner {c : Char} (hwidth : charWidth c = 1) : c ≠ joiner := by
  rintro rfl
  exact absurd hwidth (by decide)

/-- The selectors take no column. -/
theorem beq_false_of_selector {c : Char} (hwidth : charWidth c = 1) {code : Nat}
    (hcode : code = 0xFE0F ∨ code = 0xFE0E) : (c.toNat == code) = false := by
  refine beq_eq_false_iff_ne.2 fun hc => ?_
  rw [charWidth, hc] at hwidth
  rcases hcode with rfl | rfl
  · exact absurd hwidth (by decide +kernel)
  · exact absurd hwidth (by decide +kernel)

namespace Tail

/-- Nothing behind a joiner is at the start of the text. -/
def isUnjoined : Tail → Bool
  | .joined | .joinedKeycap | .joinedFlag _ | .joinedTags _ _ => false
  | _ => true

/-- A character in front of a text that adds one column at most and leaves it
without a joiner. -/
def Narrow (step : Int × Tail) : Prop :=
  step.1 ≤ 1 ∧ step.2.isUnjoined = true

instance (step : Int × Tail) : Decidable (Narrow step) :=
  inferInstanceAs (Decidable (_ ∧ _))

theorem narrow_of_ite {condition : Prop} [Decidable condition] {next step : Int × Tail}
    (hnext : Narrow next) (hstep : (if condition then some next else none) = some step) :
    Narrow step := by
  obtain ⟨_, ⟨⟩⟩ := Option.ite_none_right_eq_some.1 hstep
  exact hnext

theorem narrow_ligature {rest : Ligature} {c : Char} {step : Int × Tail}
    (hjoin : rest.join? c = some step) : Narrow step := by
  cases rest with
  | alef =>
      simp only [Ligature.join?] at hjoin
      split at hjoin
      · cases hjoin
        decide
      · exact narrow_of_ite (by decide) hjoin
  | lamed joined =>
      cases joined with
      | false => cases hjoin
      | true => exact narrow_of_ite (by decide) hjoin
  | ya joined =>
      cases joined with
      | false => cases hjoin
      | true => exact narrow_of_ite (by decide) hjoin
  | vowelYa => exact narrow_of_ite (by decide) hjoin
  | tifinagh joined =>
      simp only [Ligature.join?] at hjoin
      split at hjoin
      · cases hjoin
        decide
      · exact narrow_of_ite (by decide) hjoin
  | tifinaghSign => exact narrow_of_ite (by decide) hjoin
  | tone => exact narrow_of_ite (by decide) hjoin
  | orkhon joined =>
      cases joined with
      | false => cases hjoin
      | true => exact narrow_of_ite (by decide) hjoin
  | khmer => exact narrow_of_ite (by decide) hjoin

/-- A mark inside a ligature other than the Arabic one is passed over. -/
theorem join?_ligature (rest : Ligature) {c : Char} (hjoiner : c ≠ joiner) :
    join? (.ligature rest) c = rest.join? c ∨
      join? (.ligature rest) c = some (0, .ligature rest) := by
  by_cases halef : rest = .alef
  · subst halef
    exact Or.inl rfl
  · rw [join?, if_neg hjoiner]
    · split
      · exact Or.inr rfl
      · exact Or.inl rfl
    · exact halef

theorem narrow_join? {tail : Tail} (htail : tail.isUnjoined = true) {c : Char}
    (hwidth : charWidth c = 1) {step : Int × Tail} (hjoin : tail.join? c = some step) :
    Narrow step := by
  have hjoiner := ne_joiner hwidth
  cases tail with
  | plain => cases hjoin
  | lineFeed => cases hjoin
  | skinTone =>
      rw [join?, if_neg hjoiner] at hjoin
      exact narrow_of_ite (by decide) hjoin
  | flagLetter => exact narrow_of_ite (by decide) hjoin
  | flagLetters =>
      rw [join?, if_neg hjoiner] at hjoin
      exact narrow_of_ite (by decide) hjoin
  | picture => exact absurd (Option.ite_none_right_eq_some.1 hjoin).1 hjoiner
  | joined => cases htail
  | joinedKeycap => cases htail
  | joinedFlag letters => cases htail
  | joinedTags letters digits => cases htail
  | ligature rest =>
      rcases join?_ligature rest hjoiner with hrest | hpassed
      · exact narrow_ligature (hrest.symm.trans hjoin)
      · cases hpassed.symm.trans hjoin
        exact ⟨Int.one_nonneg, rfl⟩

theorem isUnjoined_start (c : Char) : (start c).isUnjoined = true := by
  unfold start
  split
  · rfl
  · split
    · rfl
    · split
      · rfl
      · split
        · rfl
        · rfl

theorem narrow_step {tail : Tail} (htail : tail.isUnjoined = true) {c : Char}
    (hwidth : charWidth c = 1) : Narrow (tail.step c) := by
  unfold step
  cases hjoin : tail.join? c with
  | none =>
      rw [Option.getD_none, hwidth]
      exact ⟨Int.le_refl _, isUnjoined_start c⟩
  | some step => exact narrow_join? htail hwidth hjoin

end Tail

namespace Following

/-- No selector and no joiner is at the start of the text. -/
def IsPlain (next : Following) : Prop :=
  next.tail.isUnjoined = true ∧ next.asPicture = false ∧ next.asText = false

theorem IsPlain.step {next : Following} (hplain : next.IsPlain) {c : Char}
    (hwidth : charWidth c = 1) : (next.step c).1 ≤ 1 ∧ (next.step c).2.IsPlain := by
  obtain ⟨htail, hpicture, htext⟩ := hplain
  have hdrop : next.dropPicture = next := by
    rw [dropPicture, hpicture]
    rfl
  unfold Following.step
  simp only [hpicture, hdrop, htext, beq_false_of_selector hwidth (Or.inl rfl),
    beq_false_of_selector hwidth (Or.inr rfl), Bool.false_and, Bool.false_eq_true, if_false]
  split
  · exact ⟨Int.le_refl _, rfl, rfl, rfl⟩
  · split
    · refine ⟨?_, rfl, rfl, rfl⟩
      dsimp only
      split
      · decide
      · exact Int.le_refl _
    · split
      · exact ⟨Int.le_refl _, rfl, rfl, rfl⟩
      · obtain ⟨hcolumns, hnext⟩ := Tail.narrow_step htail hwidth
        exact ⟨hcolumns, hnext, rfl, rfl⟩

end Following

/-- Characters of one column take one column each, or fewer where they are drawn
as one letter. -/
theorem extent_le_length {text : Text} (hwidth : ∀ c ∈ text, charWidth c = 1) :
    (extent text).1 ≤ text.length ∧ (extent text).2.IsPlain := by
  induction text with
  | nil => exact ⟨Int.le_refl _, rfl, rfl, rfl⟩
  | cons c rest ih =>
      obtain ⟨hc, hrest⟩ := List.forall_mem_cons.1 hwidth
      obtain ⟨hcolumns, hplain⟩ := ih hrest
      obtain ⟨hstep, hnext⟩ := hplain.step hc
      refine ⟨?_, hnext⟩
      rw [List.length_cons]
      have hsum : (extent (c :: rest)).1 = (extent rest).1 + ((extent rest).2.step c).1 := rfl
      omega

theorem width_le_length {text : Text} (hwidth : ∀ c ∈ text, charWidth c = 1) :
    width text ≤ text.length :=
  Int.toNat_le.2 (extent_le_length hwidth).1

end Text

/-- A place on the screen that is one of the cells of a rectangle. -/
def Anchor.IsCellOf (anchor : Anchor) (rect : Rect) : Prop :=
  (rect.x ≤ anchor.x ∧ anchor.x < rect.x + rect.width) ∧
    rect.y ≤ anchor.y ∧ anchor.y < rect.y + rect.height

instance (anchor : Anchor) (rect : Rect) : Decidable (anchor.IsCellOf rect) :=
  inferInstanceAs (Decidable ((_ ∧ _) ∧ _ ∧ _))

namespace Pane

/-! ### Scrolling -/

/-- A window of `size` lines that began at the line `before` and begins at `first`
now: it shows the line `shown`, and every other window that does is further away
from where it was. -/
structure Scrolled (before size shown first : Nat) : Prop where
  first_le : first ≤ shown
  shown_lt : shown < first + size
  nearest : ∀ other, other ≤ shown → shown < other + size → other ≠ first →
    ((first : Int) - before).natAbs < ((other : Int) - before).natAbs

theorem scrolled_follow (before : Nat) {size : Nat} (hsize : 0 < size) (shown : Nat) :
    Scrolled before size shown (follow before size shown) := by
  unfold follow
  split
  · constructor <;> omega
  · split
    · constructor <;> omega
    · constructor <;> omega

/-- A window that shows the line stays where it is. -/
theorem follow_eq_self {first size shown : Nat} (hfirst : first ≤ shown)
    (hshown : shown < first + size) : follow first size shown = first := by
  rw [follow, if_neg (Nat.not_lt.2 hfirst), if_neg (Nat.not_le.2 hshown)]

/-! ### The place of the cursor -/

variable {pane : Pane}

theorem anchor?_caret (hwell : pane.area.WellFormed) {viewport : Rect}
    (hviewport : pane.viewport = some viewport) :
    pane.anchor? (Surface.caret pane) =
      some ⟨viewport.x + Text.width (((pane.area.line pane.area.cursor.row).drop pane.leftCol).take
          (pane.area.cursor.col - pane.leftCol)),
        viewport.y + pane.area.cursor.row - pane.topRow⟩ := by
  have hposition : pane.area.position? (Surface.caret pane) = some pane.area.cursor :=
    TextArea.position?_eq_some_iff.2 ⟨hwell.cursor, pane.caret_eq.symm⟩
  rw [anchor?, hviewport, hposition]

/-- In a line of narrow characters a cursor in view has one of the cells. -/
theorem anchor?_isCellOf (hwell : pane.area.WellFormed) {inner : Rect}
    (hviewport : pane.viewport = some inner)
    (hrow : pane.topRow ≤ pane.area.cursor.row ∧
      pane.area.cursor.row < pane.topRow + inner.height)
    (hcol : pane.leftCol ≤ pane.area.cursor.col ∧
      pane.area.cursor.col < pane.leftCol + inner.width)
    (hwidth : ∀ c ∈ pane.area.line pane.area.cursor.row, Text.charWidth c = 1) :
    ∃ anchor, pane.anchor? (Surface.caret pane) = some anchor ∧ anchor.IsCellOf inner := by
  refine ⟨_, anchor?_caret hwell hviewport, ?_⟩
  have hcolumns : Text.width (((pane.area.line pane.area.cursor.row).drop pane.leftCol).take
      (pane.area.cursor.col - pane.leftCol)) ≤ pane.area.cursor.col - pane.leftCol := by
    refine Nat.le_trans (Text.width_le_length fun c hc => ?_) (List.length_take_le _ _)
    exact hwidth c (List.mem_of_mem_drop (List.mem_of_mem_take hc))
  simp only [Anchor.IsCellOf]
  omega

/-- However the text was edited and the cursor moved before, drawing scrolls both
ways by the least amount that brings the cursor into view, and drawing again with
the cursor at the same place scrolls no further.  If the pane has cells and the
line of the cursor only characters of one column, the cursor has one of the
cells. -/
theorem noteDrawn_follows_cursor (text : Text) (actions : List Action) (inner : Rect) :
    let pane := (ofText text).performAll actions
    let cursor := pane.area.cursor
    let drawn := pane.noteDrawn inner
    drawn.area = pane.area ∧
      Scrolled pane.topRow (max inner.height 1) cursor.row drawn.topRow ∧
      Scrolled pane.leftCol (max inner.width 1) cursor.col drawn.leftCol ∧
      (∀ area : TextArea, area.cursor = cursor →
        noteDrawn { drawn with area } inner = { drawn with area }) ∧
      (0 < inner.width → 0 < inner.height →
        (∀ c ∈ pane.area.line cursor.row, Text.charWidth c = 1) →
        ∃ anchor, drawn.anchor? (Surface.caret drawn) = some anchor ∧ anchor.IsCellOf inner) := by
  intro pane cursor drawn
  have hwell : drawn.area.WellFormed :=
    wellFormed_performAll (TextArea.wellFormed_ofText text) actions
  have hrows : Scrolled pane.topRow (max inner.height 1) cursor.row drawn.topRow :=
    scrolled_follow _ (by omega) _
  have hcols : Scrolled pane.leftCol (max inner.width 1) cursor.col drawn.leftCol :=
    scrolled_follow _ (by omega) _
  refine ⟨rfl, hrows, hcols, ?_, ?_⟩
  · intro area hcursor
    have htop := follow_eq_self hrows.first_le hrows.shown_lt
    have hleft := follow_eq_self hcols.first_le hcols.shown_lt
    unfold noteDrawn
    dsimp only
    rw [hcursor, htop, hleft]
    rfl
  · intro hwidth hheight hline
    have htop := hrows.shown_lt
    have hleft := hcols.shown_lt
    rw [Nat.max_eq_left hheight] at htop
    rw [Nat.max_eq_left hwidth] at hleft
    exact anchor?_isCellOf hwell rfl ⟨hrows.first_le, htop⟩ ⟨hcols.first_le, hleft⟩ hline

/-- A pane that is drawn with all of its text, and then with one line of four
columns. -/
theorem noteDrawn_follows_cursor_shrunk :
    let actions : List Action := [.noteDrawn ⟨0, 0, 40, 5⟩, .edit (.insertChar 'A')]
    let pane := (ofText "Person and\nhasPet some ".toList).performAll actions
    let inner : Rect := ⟨2, 3, 4, 1⟩
    let drawn := pane.noteDrawn inner
    (pane.topRow, pane.leftCol, pane.area.cursor) = (0, 0, ⟨1, 13⟩) ∧
      (drawn.topRow, drawn.leftCol) = (1, 10) ∧
      Scrolled pane.topRow 1 pane.area.cursor.row drawn.topRow ∧
      Scrolled pane.leftCol 4 pane.area.cursor.col drawn.leftCol ∧
      drawn.noteDrawn inner = drawn ∧ drawn.anchor? (Surface.caret drawn) = some ⟨5, 3⟩ ∧
      ∃ anchor, drawn.anchor? (Surface.caret drawn) = some anchor ∧ anchor.IsCellOf inner := by
  intro actions pane inner drawn
  have hline : ((pane.area.line pane.area.cursor.row).all fun c => Text.charWidth c == 1) =
      true := by decide
  obtain ⟨_, hrows, hcols, hagain, hcell⟩ :=
    noteDrawn_follows_cursor "Person and\nhasPet some ".toList actions inner
  refine ⟨by decide, by decide, hrows, hcols, hagain pane.area rfl, by decide,
    hcell (by decide) (by decide) fun c hc => ?_⟩
  simpa using List.all_eq_true.1 hline c hc

end Pane

end ClassExpr
