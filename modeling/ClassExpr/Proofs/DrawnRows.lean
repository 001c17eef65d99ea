/-
The row that a cell of the popup answers to and the row that is drawn there.

Drawing and pointing place, cut and scroll the list each on their own.  They
agree on every popup whose selection points at one of its rows, and that is
kept by all that can be done to a popup.
-/
import ClassExpr.Proofs.CanvasCells
import ClassExpr.Proofs.PopupCoherence
import ClassExpr.Terminal.PopupView

namespace ClassExpr

namespace Popup

/-- What can be done to a popup. -/
inductive Operation where
  | openAt (anchor : Anchor) (probed : Text)
  | populate (candidates : List Candidate)
  | hide
  | selectNext
  | selectPrevious
  | select (row : Nat)
  | rebind (owner : Nat)

def perform (popup : Popup) : Operation → Popup
  | .openAt anchor probed => popup.openAt anchor probed
  | .populate candidates => popup.populate candidates
  | .hide => popup.hide
  | .selectNext => popup.selectNext
  | .selectPrevious => popup.selectPrevious
  | .select row => (popup.select? row).getD popup
  | .rebind owner => popup.rebind owner

def run (popup : Popup) (operations : List Operation) : Popup :=
  operations.foldl perform popup

/-- The selection points at a row if there are rows. -/
def InRange (popup : Popup) : Prop :=
  ∀ session ∈ popup.session, session.InRange

theorem InRange.map {popup : Popup} (hrange : popup.InRange)
    {select : PopupSession → PopupSession}
    (hselect : ∀ session, session.InRange → (select session).InRange) :
    InRange { popup with session := popup.session.map select } := by
  intro moved hmoved
  obtain ⟨session, hsession, rfl⟩ := Option.map_eq_some_iff.1 hmoved
  exact hselect session (hrange session hsession)

theorem InRange.perform {popup : Popup} (hrange : popup.InRange) (operation : Operation) :
    (popup.perform operation).InRange := by
  cases operation with
  | openAt anchor probed =>
      intro session hsession
      simp only [Popup.perform, openAt] at hsession
      split at hsession
      · exact hrange session hsession
      · obtain rfl := Option.some.inj hsession
        exact Or.inr ⟨rfl, rfl⟩
  | populate candidates =>
      intro session hsession
      obtain rfl := Option.some.inj hsession
      cases hrows : candidates.take popup.maxEntries with
      | nil => exact Or.inr ⟨rfl, rfl⟩
      | cons first rest => exact Or.inl (by simp)
  | hide => exact fun session hsession => absurd hsession (by simp [Popup.perform, hide])
  | selectNext => exact hrange.map fun _ => PopupSession.InRange.selectNext
  | selectPrevious => exact hrange.map fun _ => PopupSession.InRange.selectPrevious
  | select row =>
      simp only [Popup.perform, select?]
      cases hcurrent : popup.session with
      | none => exact hrange
      | some current =>
          dsimp only
          split
          · rename_i hrow
            intro session hsession
            obtain rfl := Option.some.inj hsession
            exact Or.inl hrow
          · exact hrange
  | rebind owner =>
      exact fun session hsession => absurd hsession (by simp [Popup.perform, rebind, hidden])

theorem InRange.run {popup : Popup} (hrange : popup.InRange) (operations : List Operation) :
    (popup.run operations).InRange := by
  induction operations generalizing popup with
  | nil => exact hrange
  | cons operation rest ih => exact ih (hrange.perform operation)

theorem inRange_hidden (size : PopupSize) (maxEntries : Nat) : (hidden size maxEntries).InRange :=
  fun _ hsession => absurd hsession (by simp [hidden])

/-- With rows one of them is selected, and without rows there is no
selection. -/
theorem InRange.selectedIndex? {popup : Popup} (hrange : popup.InRange) :
    (popup.rows = [] ∧ popup.selectedIndex? = none) ∨
      ∃ index, popup.selectedIndex? = some index ∧ index < popup.rows.length := by
  cases hsession : popup.session with
  | none => exact Or.inl (by simp [rows, Popup.selectedIndex?, hsession])
  | some session =>
      rcases hrange session hsession with hindex | ⟨hnil, _⟩
      · have hrows : session.rows ≠ [] := List.ne_nil_of_length_pos (Nat.zero_lt_of_lt hindex)
        exact Or.inr ⟨session.index, by simp [Popup.selectedIndex?, hsession, hrows],
          by simpa [rows, hsession] using hindex⟩
      · exact Or.inl (by simp [rows, Popup.selectedIndex?, hsession, hnil])

end Popup

namespace Rect

/-- A cell inside the border of a rectangle. -/
def Inside (rect : Rect) (x y : Nat) : Prop :=
  (rect.x < x ∧ x + 1 < rect.x + rect.width) ∧ rect.y < y ∧ y + 1 < rect.y + rect.height

instance (rect : Rect) (x y : Nat) : Decidable (rect.Inside x y) :=
  inferInstanceAs (Decidable ((_ ∧ _) ∧ _ ∧ _))

/-- A rectangle that has cells and ends at the largest coordinate at most. -/
structure Bounded (rect : Rect) : Prop where
  width_pos : 0 < rect.width
  height_pos : 0 < rect.height
  right_le : rect.x + rect.width ≤ maxCell
  bottom_le : rect.y + rect.height ≤ maxCell

namespace Bounded

variable {rect : Rect} (hbounded : rect.Bounded)
include hbounded

theorem inner_eq : rect.inner = ⟨rect.x + 1, rect.y + 1, rect.width - 2, rect.height - 2⟩ := by
  obtain ⟨hwidth, hheight, hright, hbottom⟩ := hbounded
  rw [inner, right_eq hright, bottom_eq hbottom, Nat.min_eq_left (by omega),
    Nat.min_eq_left (by omega)]

theorem inner_contains_iff {x y : Nat} : rect.inner.contains x y = true ↔ rect.Inside x y := by
  rw [hbounded.inner_eq, contains_iff, right, bottom, Inside]
  obtain ⟨hwidth, hheight, hright, hbottom⟩ := hbounded
  dsimp only
  omega

end Bounded

end Rect

namespace PopupView

variable {view : PopupView} {popup : Popup} {area rect : Rect}

theorem visible_of_rect? (hrect : view.rect? popup area = some rect) : popup.visible = true := by
  unfold rect? at hrect
  split at hrect
  · assumption
  · cases hrect

theorem rect?_bounded (hrect : view.rect? popup area = some rect) : rect.Bounded := by
  unfold rect? at hrect
  split at hrect
  · dsimp only at hrect
    split at hrect
    · cases hrect
    · rename_i hsome
      obtain rfl := Option.some.inj hrect
      rw [Bool.not_eq_true, Rect.isEmpty_eq_false_iff] at hsome
      obtain ⟨hwidth, hheight⟩ := hsome
      refine ⟨hwidth, hheight, ?_, ?_⟩
      · simp only [Rect.intersect, Rect.right] at hwidth ⊢
        omega
      · simp only [Rect.intersect, Rect.bottom] at hheight ⊢
        omega
  · cases hrect

/-- The selected row is at most the last one that is shown, so the window need
not move for it. -/
theorem windowStart_scrollOffset (hrange : popup.InRange) {height : Nat} (hheight : 0 < height) :
    windowStart popup.rows.length height (scrollOffset popup height) popup.selectedIndex? =
      scrollOffset popup height := by
  rcases hrange.selectedIndex? with ⟨hnil, hnone⟩ | ⟨index, hindex, hlt⟩
  · simp only [windowStart, scrollOffset, hnil, hnone, List.length_nil, Option.getD_none]
    rw [if_pos (by omega)]
    omega
  · simp only [windowStart, scrollOffset, hindex, Option.getD_some]
    rw [if_neg (by omega), if_neg (by omega)]
    omega

/-- The line that is drawn at some height shows the row that stands there once
the list is scrolled. -/
theorem getElem?_drawnRows (hrange : popup.InRange) {height line : Nat} (hline : line < height) :
    (drawnRows popup height)[line]? =
      (popup.rows[scrollOffset popup height + line]?).map fun candidate =>
        (candidate, scrollOffset popup height + line) := by
  rw [drawnRows, windowStart_scrollOffset hrange (Nat.zero_lt_of_lt hline),
    List.getElem?_take_of_lt hline, List.getElem?_drop, List.getElem?_zipIdx, Nat.zero_add]

theorem rowAt?_eq_some_iff {x y row : Nat} :
    view.rowAt? popup area x y = some row ↔
      ∃ rect, view.rect? popup area = some rect ∧ rect.Inside x y ∧
        scrollOffset popup (rect.height - 2) + (y - (rect.y + 1)) = row ∧
        row < popup.rows.length := by
  unfold rowAt?
  cases hrect : view.rect? popup area with
  | none => simp
  | some rect =>
      have hbounded := rect?_bounded hrect
      simp only [Option.some.injEq, exists_eq_left', hbounded.inner_contains_iff]
      simp only [hbounded.inner_eq]
      by_cases hcell : rect.Inside x y
      · rw [if_pos hcell]
        split
        · rename_i hrow
          constructor
          · rintro ⟨⟩
            exact ⟨hcell, rfl, hrow⟩
          · rintro ⟨_, rfl, _⟩
            rfl
        · rename_i hrow
          constructor
          · rintro ⟨⟩
          · rintro ⟨_, rfl, hlt⟩
            exact absurd hlt hrow
      · simp [hcell]

/-- The popup without its list. -/
def drawFrame (view : PopupView) (rect : Rect) (canvas : Canvas) : Canvas :=
  (canvas.modifyRect rect fun _ => { background := view.background }).border rect
    { foreground := some view.border }

/-- The frame leaves the cells inside its border blank. -/
theorem drawFrame_blank (view : PopupView) {canvas : Canvas} (hbounded : rect.Bounded)
    (hcovers : canvas.Covers rect) {y : Nat} (htop : rect.y < y)
    (hbottom : y + 1 < rect.y + rect.height) :
    (view.drawFrame rect canvas).ShowsColumns y (rect.x + 1) (rect.x + 1 + (rect.width - 2))
      [] := by
  intro x hleft hright
  have hright_eq := Rect.right_eq hbounded.right_le
  have hbottom_eq := Rect.bottom_eq hbounded.bottom_le
  have hcontains : rect.contains x y = true := Rect.contains_iff.2 (by omega)
  obtain ⟨cell, hcell⟩ := Option.isSome_iff_exists.1 (hcovers x y hcontains)
  rw [Canvas.symbol?, drawFrame, Canvas.cell?_border _ _ (by omega) (by omega) (by omega)
    (by omega), Canvas.cell?_modifyRect, if_pos (by omega), hcell]
  rfl

theorem drawRow_staysIn (view : PopupView) (inner : Rect) (y : Nat) (candidate : Candidate)
    (isSelected : Bool) :
    Canvas.StaysIn y fun canvas => view.drawRow canvas inner y candidate isSelected := by
  have hspan : ∀ x text style, Canvas.StaysIn y fun canvas =>
      (canvas.drawSpan x y inner.right text style).1 := fun x text style =>
    .drawSpan x inner.right text style
  simp only [drawRow, Canvas.drawSpan_snd]
  refine (hspan _ _ _).comp ((hspan _ _ _).comp ?_)
  cases isSelected with
  | true => exact .modifyRect inner.x inner.width _
  | false => exact .id

/-- What the line of a candidate shows in a list of some width: the tag of its
kind, or that of a keyword, in four columns, and behind it the label as far as
it fits. -/
def lineColumns (candidate : Candidate) (width : Nat) : List Text :=
  let tag := candidate.kind?.elim ['k', 'w'] EntityKind.tag
  (tag ++ List.replicate (4 - tag.length) ' ').map ([·]) ++ Text.columns (width - 4) candidate.label

/-- A tag has four characters, each of them a cluster of one column. -/
theorem clusters_tag (candidate : Candidate) :
    Text.clusters (tag candidate) = (tag candidate).map ([·]) ∧
      Text.width (tag candidate) = 4 ∧ (tag candidate).length = 4 ∧
      ∀ cluster ∈ (tag candidate).map ([·]), Text.width cluster = 1 ∧ cluster ≠ ['\n'] := by
  unfold tag
  cases candidate.kind? with
  | none => decide +kernel
  | some kind => cases kind <;> decide +kernel

theorem lineColumns_eq (candidate : Candidate) (width : Nat) :
    lineColumns candidate width =
      (tag candidate).map ([·]) ++ Text.columns (width - 4) candidate.label := by
  unfold lineColumns tag
  cases candidate.kind? <;> rfl

/-- On a blank line the tag and the label of the candidate are left, cut at the
right end of the list. -/
theorem drawRow_showsColumns {canvas : Canvas} {inner : Rect} {y : Nat}
    (hright : inner.x + inner.width < maxCell)
    (hblank : canvas.ShowsColumns y inner.x (inner.x + inner.width) [])
    (candidate : Candidate) (isSelected : Bool) :
    (view.drawRow canvas inner y candidate isSelected).ShowsColumns y inner.x
      (inner.x + inner.width) (lineColumns candidate inner.width) := by
  obtain ⟨hclusters, hwidth, hlength, hnarrow⟩ := clusters_tag candidate
  simp only [drawRow, Canvas.drawSpan_snd, Rect.right_eq (Nat.le_of_lt hright), hwidth]
  -- The line of the selected row changes its colour only.
  generalize hstyled : (if isSelected = true then
    canvas.modifyRect ⟨inner.x, y, inner.width, 1⟩
      (·.restyle { background := some view.selected }) else canvas) = styled
  have hline : styled.ShowsColumns y inner.x (inner.x + inner.width) [] := by
    subst hstyled
    cases isSelected with
    | false => exact hblank
    | true => exact hblank.restyle _ _
  have htag := hline.drawSpan (tag candidate)
    { foreground := some (if candidate.kind?.isNone = true then view.keyword else view.entity) }
    hright
  rw [Text.columns_of_narrow (by omega) (hclusters ▸ hnarrow), hclusters, List.length_nil,
    Nat.add_zero, Nat.add_sub_cancel_left, List.nil_append] at htag
  have hlabel := htag.drawSpan candidate.label
    { foreground := some view.text, bold := candidate.kind?.isNone } hright
  have hplace : inner.x + (((tag candidate).map ([·])).take inner.width).length =
      if 4 = 0 ∨ inner.x + inner.width ≤ inner.x then inner.x
      else min (inner.x + 4) (inner.x + inner.width) := by
    rw [List.length_take, List.length_map, hlength]
    split <;> omega
  have hroom : inner.x + inner.width -
      (inner.x + (((tag candidate).map ([·])).take inner.width).length) = inner.width - 4 := by
    rw [List.length_take, List.length_map, hlength]
    omega
  rw [hroom, hplace] at hlabel
  rw [lineColumns_eq]
  by_cases hshort : inner.width ≤ 4
  · rw [Nat.sub_eq_zero_of_le hshort, Text.columns_zero, List.append_nil] at hlabel ⊢
    exact .of_take (by rwa [Nat.add_sub_cancel_left])
  · rwa [List.take_of_length_le (by simp; omega)] at hlabel

example : lineColumns (.keyword "exactly".toList) 8 = "kw  exac".toList.map ([·]) := by
  decide +kernel

/-- A line inside the popup shows the row that is drawn there. -/
theorem cell?_draw (hrect : view.rect? popup area = some rect) (hwidth : 2 < rect.width)
    (hheight : 2 < rect.height) {y : Nat} (htop : rect.y < y) {line : Candidate × Nat}
    (hline : (drawnRows popup (rect.height - 2))[y - (rect.y + 1)]? = some line)
    (canvas : Canvas) (x : Nat) :
    (view.draw popup area canvas).cell? x y =
      (view.drawRow (view.drawFrame rect canvas) rect.inner y line.1
        (popup.selectedIndex? == some line.2)).cell? x y := by
  have hinner := (rect?_bounded hrect).inner_eq
  have hsome : rect.inner.isEmpty = false := by
    rw [hinner, Rect.isEmpty_eq_false_iff]
    dsimp only
    omega
  have hdraw : ∀ y (item : Candidate × Nat), Canvas.StaysIn y fun canvas =>
      view.drawRow canvas rect.inner y item.1 (popup.selectedIndex? == some item.2) :=
    fun y item => view.drawRow_staysIn rect.inner y item.1 _
  have hrow := Canvas.row?_foldl hdraw (drawnRows popup (rect.height - 2)) 0
    (show rect.y + 1 + 0 ≤ y from htop) (view.drawFrame rect canvas)
  rw [Nat.add_zero, hline, Option.elim_some] at hrow
  have hdrawn : view.draw popup area canvas =
      (drawnRows popup (rect.height - 2)).zipIdx.foldl (fun canvas item =>
        view.drawRow canvas rect.inner (rect.y + 1 + item.2) item.1.1
          (popup.selectedIndex? == some item.1.2)) (view.drawFrame rect canvas) := by
    simp only [draw, hrect, hsome, Bool.false_eq_true, if_false]
    rw [hinner]
    rfl
  rw [hdrawn]
  refine Canvas.cell?_eq_of_row? ?_ hrow x
  exact (Canvas.area_foldl hdraw _ _).trans ((hdraw y line).area _).symm

/-- The line at the height `y` is that of the row `row`: it is drawn there of all
lines of the list, and whatever the popup is drawn over, the cells of the line
show the tag and the label of the row from border to border. -/
def ShowsRow (view : PopupView) (popup : Popup) (area : Rect) (y row : Nat) : Prop :=
  ∃ rect candidate, view.rect? popup area = some rect ∧ rect.y < y ∧
    popup.rows[row]? = some candidate ∧
    (drawnRows popup (rect.height - 2))[y - (rect.y + 1)]? = some (candidate, row) ∧
    ∀ canvas : Canvas, canvas.Covers rect →
      (view.draw popup area canvas).ShowsColumns y (rect.x + 1) (rect.x + 1 + (rect.width - 2))
        (lineColumns candidate (rect.width - 2))

theorem showsRow_of_line (hrange : popup.InRange) (hrect : view.rect? popup area = some rect)
    (hwidth : 2 < rect.width) {y : Nat} (htop : rect.y < y)
    (hbottom : y + 1 < rect.y + rect.height)
    (hrow : scrollOffset popup (rect.height - 2) + (y - (rect.y + 1)) < popup.rows.length) :
    view.ShowsRow popup area y
      (scrollOffset popup (rect.height - 2) + (y - (rect.y + 1))) := by
  have hbounded := rect?_bounded hrect
  have hcandidate := List.getElem?_eq_getElem hrow
  have hdrawn := getElem?_drawnRows hrange (show y - (rect.y + 1) < rect.height - 2 by omega)
  rw [hcandidate, Option.map_some] at hdrawn
  refine ⟨rect, _, hrect, htop, hcandidate, hdrawn, fun canvas hcovers x hleft hright => ?_⟩
  rw [Canvas.symbol?, cell?_draw hrect hwidth (by omega) htop hdrawn, ← Canvas.symbol?]
  have hblank := view.drawFrame_blank hbounded hcovers htop hbottom
  have hend : rect.x + 1 + (rect.width - 2) < maxCell := by
    have hright_le := hbounded.right_le
    omega
  have hinner := hbounded.inner_eq
  generalize rect.inner = inner at hinner ⊢
  subst hinner
  exact drawRow_showsColumns hend hblank _ _ x hleft hright

/-- The selected row stands below the first one shown and above the end of the
window. -/
theorem exists_showsRow_selected (hrange : popup.InRange)
    (hrect : view.rect? popup area = some rect) (hrows : popup.rows ≠ [])
    (hwidth : 2 < rect.width) (hheight : 2 < rect.height) :
    ∃ y selected, rect.y < y ∧ y + 1 < rect.y + rect.height ∧
      popup.selectedIndex? = some selected ∧ view.ShowsRow popup area y selected := by
  rcases hrange.selectedIndex? with ⟨hnil, _⟩ | ⟨selected, hselected, hlt⟩
  · exact absurd hnil hrows
  · have hoffset : scrollOffset popup (rect.height - 2) = selected + 1 - (rect.height - 2) := by
      rw [scrollOffset, hselected, Nat.max_eq_left (by omega)]
    have hshows := @showsRow_of_line view popup area rect hrange hrect hwidth
      (rect.y + 1 + (selected - scrollOffset popup (rect.height - 2)))
    rw [Nat.add_sub_cancel_left] at hshows
    have hsum : scrollOffset popup (rect.height - 2) +
        (selected - scrollOffset popup (rect.height - 2)) = selected := by omega
    rw [hsum] at hshows
    exact ⟨_, selected, by omega, by omega, hselected, hshows (by omega) (by omega) hlt⟩

/-- For all that can have been done to a popup, in every area: a cell answers to
a row exactly if the popup is shown, the cell lies inside its border and the
line drawn there is that of the row.  The row exists, and if the popup has rows
and room for them the selected one is among the drawn. -/
theorem rowAt?_eq_some_iff_showsRow (size : PopupSize) (maxEntries : Nat)
    (operations : List Popup.Operation) (view : PopupView) (area : Rect) :
    let popup := (Popup.hidden size maxEntries).run operations
    (∀ x y row, view.rowAt? popup area x y = some row ↔
        popup.visible = true ∧
          (∃ rect, view.rect? popup area = some rect ∧ rect.Inside x y) ∧
          view.ShowsRow popup area y row) ∧
      (∀ x y row, view.rowAt? popup area x y = some row → row < popup.rows.length) ∧
      ∀ rect, view.rect? popup area = some rect → popup.rows ≠ [] → 2 < rect.width →
        2 < rect.height →
        ∃ y selected, rect.y < y ∧ y + 1 < rect.y + rect.height ∧
          popup.selectedIndex? = some selected ∧ view.ShowsRow popup area y selected := by
  intro popup
  have hrange : popup.InRange := (Popup.inRange_hidden size maxEntries).run operations
  refine ⟨fun x y row => ⟨?_, ?_⟩, ?_, ?_⟩
  · intro hanswer
    obtain ⟨rect, hrect, hcell, rfl, hrow⟩ := rowAt?_eq_some_iff.1 hanswer
    obtain ⟨⟨hleft, hright⟩, htop, hbottom⟩ := id hcell
    exact ⟨visible_of_rect? hrect, ⟨rect, hrect, hcell⟩,
      showsRow_of_line hrange hrect (by omega) htop hbottom hrow⟩
  · rintro ⟨_, ⟨rect, hrect, hcell⟩, shown, candidate, hshown, _, hrow, hdrawn, _⟩
    obtain rfl := Option.some.inj (hrect.symm.trans hshown)
    obtain ⟨_, htop, hbottom⟩ := id hcell
    rw [getElem?_drawnRows hrange (by omega)] at hdrawn
    obtain ⟨_, _, hpair⟩ := Option.map_eq_some_iff.1 hdrawn
    exact rowAt?_eq_some_iff.2 ⟨rect, hrect, hcell, (Prod.mk.inj hpair).2,
      (List.getElem?_eq_some_iff.1 hrow).1⟩
  · intro x y row hanswer
    obtain ⟨_, _, _, _, hrow⟩ := rowAt?_eq_some_iff.1 hanswer
    exact hrow
  · intro rect hrect hrows hwidth hheight
    exact exists_showsRow_selected hrange hrect hrows hwidth hheight

/-- A list of five rows in a window of two, with the last one selected.  The line
above it shows the tag of a keyword and the fourth word. -/
theorem rowAt?_eq_some_iff_showsRow_scrolled :
    let words := ["some", "only", "min", "max", "exactly"]
    let operations : List Popup.Operation :=
      [.openAt ⟨4, 2⟩ [], .populate (words.map fun word => .keyword word.toList), .selectPrevious]
    let popup := (Popup.hidden {} 100).run operations
    let view : PopupView := {}
    let area : Rect := ⟨0, 0, 30, 6⟩
    let rect : Rect := ⟨4, 2, 26, 4⟩
    view.rect? popup area = some rect ∧ view.rowAt? popup area 6 3 = some 3 ∧
      view.ShowsRow popup area 3 3 ∧
      (view.draw popup area (.blank area)).ShowsColumns 3 5 29 ("kw  max".toList.map ([·])) ∧
      3 < popup.rows.length ∧
      ∃ y selected, rect.y < y ∧ y + 1 < rect.y + rect.height ∧
        popup.selectedIndex? = some selected ∧ view.ShowsRow popup area y selected := by
  intro words operations popup view area rect
  obtain ⟨hiff, hbound, hselected⟩ :=
    rowAt?_eq_some_iff_showsRow {} 100 operations view area
  have hrect : view.rect? popup area = some rect := by decide
  have hanswer : view.rowAt? popup area 6 3 = some 3 := by decide
  have hshows := ((hiff 6 3 3).1 hanswer).2.2
  have hcovers : (Canvas.blank area).Covers rect := by
    intro x y hcell
    apply Canvas.covers_blank area
    obtain ⟨⟨_, hright⟩, _, hbottom⟩ := Rect.contains_iff.1 hcell
    exact Rect.contains_iff.2 ⟨⟨Nat.zero_le x, hright⟩, Nat.zero_le y, hbottom⟩
  have hcells : (view.draw popup area (.blank area)).ShowsColumns 3 5 29
      ("kw  max".toList.map ([·])) := by
    obtain ⟨shown, candidate, hshown, _, hrow, _, hcells⟩ := id hshows
    obtain rfl := Option.some.inj (hrect.symm.trans hshown)
    have hcandidate : popup.rows[3]? = some (.keyword "max".toList) := by decide
    obtain rfl := Option.some.inj (hcandidate.symm.trans hrow)
    have hcolumns : lineColumns (.keyword "max".toList) 24 = "kw  max".toList.map ([·]) := by
      decide +kernel
    exact hcolumns ▸ hcells _ hcovers
  exact ⟨hrect, hanswer, hshows, hcells, hbound 6 3 3 hanswer,
    hselected rect hrect (by decide) (by decide) (by decide)⟩

end PopupView

end ClassExpr
