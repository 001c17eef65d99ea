/-
The place of the popup in an area of the screen.

Columns and rows are treated alike: the popup starts at the cell of the area
that is nearest to its anchor, and has all cells of its size that the area has
from there on.  The computation goes through cell coordinates and signed words,
and none of its numbers is too large or too small for them.
-/
import ClassExpr.Proofs.DrawnRows

namespace ClassExpr

namespace Popup

/-- A popup that is shown has a place. -/
def Anchored (popup : Popup) : Prop :=
  popup.visible = true → popup.anchor.isSome = true

theorem Anchored.perform {popup : Popup} (hanchored : popup.Anchored) (operation : Operation) :
    (popup.perform operation).Anchored := by
  cases operation with
  | openAt anchor probed =>
      simp only [Popup.perform, openAt]
      split
      · exact hanchored
      · exact fun _ => rfl
  | populate candidates => exact hanchored
  | hide => exact fun hvisible => absurd hvisible Bool.false_ne_true
  | selectNext => exact hanchored
  | selectPrevious => exact hanchored
  | select row =>
      simp only [Popup.perform, select?]
      split
      · split
        · exact hanchored
        · exact hanchored
      · exact hanchored
  | rebind owner => exact fun hvisible => absurd hvisible Bool.false_ne_true

theorem anchored_run (size : PopupSize) (maxEntries : Nat) (operations : List Operation) :
    ((hidden size maxEntries).run operations).Anchored := by
  have hrun : ∀ popup : Popup, popup.Anchored → (popup.run operations).Anchored := by
    induction operations with
    | nil => exact fun _ hanchored => hanchored
    | cons operation rest ih => exact fun popup hanchored => ih _ (hanchored.perform operation)
  exact hrun _ fun hvisible => absurd hvisible Bool.false_ne_true

end Popup

/-- The coordinates of an anchor are signed words of 32 bits. -/
def Anchor.Signed (anchor : Anchor) : Prop :=
  (-2147483648 ≤ anchor.x ∧ anchor.x ≤ 2147483647) ∧
    -2147483648 ≤ anchor.y ∧ anchor.y ≤ 2147483647

instance (anchor : Anchor) : Decidable anchor.Signed :=
  inferInstanceAs (Decidable ((_ ∧ _) ∧ _ ∧ _))

namespace PopupView

/-! ### One direction -/

/-- The cells of a popup of `size` cells in one direction: it starts at `start`
and has `length` of them, in an area that has `count` cells from `first` on. -/
structure Fitted (anchor : Int) (first count size start length : Nat) : Prop where
  pos : 0 < length
  first_le : first ≤ start
  stop_le : start + length ≤ first + count
  length_le : length ≤ size
  /-- An anchor in the area is where the popup starts. -/
  start_eq : first ≤ anchor → anchor < first + count → start = anchor
  start_before : anchor < first → start = first
  start_behind : first + count ≤ anchor → start + 1 = first + count
  /-- A popup is cut only where the area ends. -/
  stop_eq : length < size → start + length = first + count

/-- The first cell of a popup in one direction and the number of its cells. -/
def along (anchor : Int) (first count size : Nat) : Nat × Nat :=
  let start := clamp anchor first (first + count - 1)
  (start, min size (first + count - start))

theorem le_clamp (value : Int) (low high : Nat) : low ≤ clamp value low high := by
  rw [clamp]
  omega

theorem clamp_le (value : Int) (low high : Nat) : clamp value low high ≤ max high low := by
  rw [clamp]
  omega

theorem fitted_along (anchor : Int) (first : Nat) {count size : Nat} (hcount : 0 < count)
    (hsize : 0 < size) :
    Fitted anchor first count size (along anchor first count size).1
      (along anchor first count size).2 := by
  simp only [along, clamp]
  constructor <;> omega

theorem along_snd_pos_iff (anchor : Int) (first count : Nat) {size : Nat} (hsize : 0 < size) :
    0 < (along anchor first count size).2 ↔ 0 < count := by
  simp only [along, clamp]
  omega

/-- Cutting the cells at the last coordinate and at the end of the area is
cutting them at the end of the area. -/
theorem cut_eq_along (anchor : Int) {first count : Nat} (hstop : first + count ≤ maxCell)
    (size : Nat) {start : Nat} (hstart : start = clamp anchor first (first + count - 1)) :
    (max start first,
      min (start + min size (maxCell - start)) (first + count) - max start first) =
      along anchor first count size := by
  have hfirst := le_clamp anchor first (first + count - 1)
  rw [← hstart] at hfirst
  rw [along, ← hstart, Nat.max_eq_left hfirst, Prod.mk.injEq]
  omega

/-- The columns and the rows of a popup of some size in an area. -/
def placed (anchor : Anchor) (area : Rect) (width height : Nat) : Rect :=
  let columns := along anchor.x area.x area.width width
  let rows := along anchor.y area.y area.height height
  ⟨columns.1, rows.1, columns.2, rows.2⟩

theorem intersect_eq_placed (anchor : Anchor) {area : Rect}
    (hright : area.x + area.width ≤ maxCell) (hbottom : area.y + area.height ≤ maxCell)
    (width height : Nat) :
    (Rect.ofSize (clamp anchor.x area.x (area.right - 1))
        (clamp anchor.y area.y (area.bottom - 1)) width height).intersect area =
      placed anchor area width height := by
  rw [Rect.right_eq hright, Rect.bottom_eq hbottom]
  have hcolumns := cut_eq_along anchor.x hright width rfl
  have hrows := cut_eq_along anchor.y hbottom height rfl
  have hx := clamp_le anchor.x area.x (area.x + area.width - 1)
  have hy := clamp_le anchor.y area.y (area.y + area.height - 1)
  generalize clamp anchor.x area.x (area.x + area.width - 1) = x at hcolumns hx ⊢
  generalize clamp anchor.y area.y (area.y + area.height - 1) = y at hrows hy ⊢
  have hreach : (Rect.ofSize x y width height).right = x + min width (maxCell - x) :=
    Rect.right_eq (by simp only [Rect.ofSize]; omega)
  have hdepth : (Rect.ofSize x y width height).bottom = y + min height (maxCell - y) :=
    Rect.bottom_eq (by simp only [Rect.ofSize]; omega)
  rw [placed, ← hcolumns, ← hrows, Rect.intersect, hreach, hdepth, Rect.right_eq hright,
    Rect.bottom_eq hbottom]
  rfl

/-! ### Computing in words -/

/-- A cell coordinate, if the number is one. -/
def cell? (value : Int) : Option Nat :=
  if 0 ≤ value ∧ value ≤ maxCell then some value.toNat else none

/-- A signed word of 32 bits, if the number is one. -/
def signed? (value : Int) : Option Int :=
  if -2147483648 ≤ value ∧ value ≤ 2147483647 then some value else none

/-- A quotient, if there is one. -/
def quotient? (value divisor : Nat) : Option Nat :=
  if divisor = 0 then none else some (value / divisor)

def checkedCells (units perCell : Nat) : Option Nat := do
  let count ← quotient? units (max perCell 1)
  cell? (max ((cell? count).getD maxCell) 3 : Nat)

/-- A coordinate moved into a range that has to be one. -/
def checkedClamp (value : Int) (low high : Nat) : Option Nat := do
  let value ← signed? value
  let least ← signed? low
  let most ← signed? (max high low : Nat)
  if least ≤ most then cell? (max least (min value most)) else none

/-- The cells of a popup in one direction. -/
def checkedAlong (anchor : Int) (first count size : Nat) : Option (Nat × Nat) := do
  let stop ← cell? (first + count)
  let start ← checkedClamp anchor first (stop - 1)
  let room ← cell? (maxCell - start)
  let reach ← cell? (start + (min size room : Nat))
  let length ← cell? ((min reach stop : Nat) - (max start first : Nat))
  return (max start first, length)

/-- The cells of a popup, with no answer at all where a number on the way is too
large or too small for its word. -/
def checkedRect? (view : PopupView) (popup : Popup) (area : Rect) : Option (Option Rect) :=
  match popup.visible, popup.anchor with
  | true, some anchor => do
    let width ← checkedCells popup.size.width view.unitsPerColumn
    let height ← checkedCells popup.size.height view.unitsPerRow
    let columns ← checkedAlong anchor.x area.x area.width width
    let rows ← checkedAlong anchor.y area.y area.height height
    let rect : Rect := ⟨columns.1, rows.1, columns.2, rows.2⟩
    return if rect.isEmpty then none else some rect
  | _, _ => some none

theorem cell?_natCast {cell : Nat} (hcell : cell ≤ maxCell) : cell? cell = some cell :=
  if_pos ⟨Int.natCast_nonneg cell, Int.ofNat_le.2 hcell⟩

theorem signed?_of_le {value : Int} (hlow : -2147483648 ≤ value) (hhigh : value ≤ 2147483647) :
    signed? value = some value :=
  if_pos ⟨hlow, hhigh⟩

theorem checkedCells_eq (units perCell : Nat) :
    checkedCells units perCell = some (cells units perCell) := by
  have hquotient : quotient? units (max perCell 1) = some (units / max perCell 1) :=
    if_neg (by omega)
  unfold checkedCells cells
  rw [hquotient, Option.bind_eq_bind, Option.bind_some]
  generalize units / max perCell 1 = count
  -- A count beyond the coordinates is the only number that is cut.
  have hcount : (cell? count).getD maxCell = min count maxCell := by
    by_cases hcell : count ≤ maxCell
    · rw [cell?_natCast hcell, Option.getD_some, Nat.min_eq_left hcell]
    · rw [cell?, if_neg (by omega), Option.getD_none]
      omega
  rw [hcount]
  exact cell?_natCast (by simp only [maxCell]; omega)

theorem checkedClamp_eq {value : Int} (hlow : -2147483648 ≤ value) (hhigh : value ≤ 2147483647)
    {low high : Nat} (hfirst : low ≤ maxCell) (hlast : high ≤ maxCell) :
    checkedClamp value low high = some (clamp value low high) := by
  have hmost : clamp value low high ≤ maxCell :=
    Nat.le_trans (clamp_le value low high) (Nat.max_le.2 ⟨hlast, hfirst⟩)
  have hclamp : max (low : Int) (min value (max high low : Nat)) = clamp value low high := by
    rw [clamp]
    omega
  unfold checkedClamp
  simp only [maxCell] at hfirst hlast
  rw [signed?_of_le hlow hhigh, signed?_of_le (by omega) (by omega),
    signed?_of_le (by omega) (by omega)]
  simp only [Option.bind_eq_bind, Option.bind_some]
  rw [if_pos (by omega), hclamp, cell?_natCast hmost]

theorem checkedAlong_eq {anchor : Int} (hlow : -2147483648 ≤ anchor) (hhigh : anchor ≤ 2147483647)
    {first count : Nat} (hstop : first + count ≤ maxCell) (size : Nat) :
    checkedAlong anchor first count size = some (along anchor first count size) := by
  have hcut := cut_eq_along anchor hstop size rfl
  have hclamp := @checkedClamp_eq anchor hlow hhigh first (first + count - 1) (by omega) (by omega)
  have hfirst := le_clamp anchor first (first + count - 1)
  have hstart := clamp_le anchor first (first + count - 1)
  unfold checkedAlong
  generalize clamp anchor first (first + count - 1) = start at hcut hclamp hfirst hstart
  have hroom : cell? (maxCell - start) = some (maxCell - start) := by
    rw [← Int.ofNat_sub (by omega)]
    exact cell?_natCast (Nat.sub_le _ _)
  have hreach : cell? (start + (min size (maxCell - start) : Nat)) =
      some (start + min size (maxCell - start)) :=
    cell?_natCast (by omega)
  have hlength : cell? ((min (start + min size (maxCell - start)) (first + count) : Nat) -
        (max start first : Nat)) =
      some (min (start + min size (maxCell - start)) (first + count) - max start first) := by
    rw [← Int.ofNat_sub (by omega)]
    exact cell?_natCast (by omega)
  rw [← hcut, ← Int.natCast_add, cell?_natCast hstop]
  simp only [Option.bind_eq_bind, Option.bind_some, hclamp, hroom, hreach, hlength]
  rfl

/-! ### The popup in its area -/

variable {view : PopupView} {popup : Popup} {area : Rect} {anchor : Anchor}

theorem three_le_cells (units perCell : Nat) : 3 ≤ cells units perCell :=
  Nat.le_max_right _ _

theorem isEmpty_placed {width height : Nat} (hwidth : 0 < width) (hheight : 0 < height) :
    (placed anchor area width height).isEmpty = false ↔ 0 < area.width ∧ 0 < area.height := by
  rw [Rect.isEmpty_eq_false_iff]
  exact and_congr (along_snd_pos_iff _ _ _ hwidth) (along_snd_pos_iff _ _ _ hheight)

section

variable (hvisible : popup.visible = true) (hanchor : popup.anchor = some anchor)
  (hright : area.x + area.width ≤ maxCell) (hbottom : area.y + area.height ≤ maxCell)
include hvisible hanchor hright hbottom

theorem rect?_eq_placed (view : PopupView) :
    view.rect? popup area =
      if 0 < area.width ∧ 0 < area.height then
        some (placed anchor area (view.cellSize popup).1 (view.cellSize popup).2)
      else none := by
  have hempty := @isEmpty_placed area anchor _ _
    (Nat.zero_lt_of_lt (three_le_cells popup.size.width view.unitsPerColumn))
    (Nat.zero_lt_of_lt (three_le_cells popup.size.height view.unitsPerRow))
  rw [rect?, hvisible, hanchor]
  dsimp only
  rw [intersect_eq_placed anchor hright hbottom, cellSize]
  split
  · rename_i hnone
    rw [if_neg fun harea => absurd (hempty.2 harea) (by simp [hnone])]
  · rename_i hsome
    rw [if_pos (hempty.1 (by simpa using hsome))]

theorem checkedRect?_eq (view : PopupView) (hsigned : anchor.Signed) :
    view.checkedRect? popup area = some (view.rect? popup area) := by
  obtain ⟨⟨hleast, hmost⟩, hlow, hhigh⟩ := hsigned
  rw [checkedRect?, rect?, hvisible, hanchor]
  dsimp only
  rw [intersect_eq_placed anchor hright hbottom]
  simp only [checkedCells_eq, checkedAlong_eq hleast hmost hright,
    checkedAlong_eq hlow hhigh hbottom, Option.bind_eq_bind, Option.bind_some]
  rfl

end

/-- In an area that ends within the coordinates of cells a shown popup has cells
exactly if the area has, and then it fits into the area in both directions.  On
the way to them no number leaves its word, whatever the sizes and units are.  A
popup is never shown without an anchor. -/
theorem rect?_fitted (view : PopupView) (area : Rect)
    (hright : area.x + area.width ≤ maxCell) (hbottom : area.y + area.height ≤ maxCell) :
    (∀ size maxEntries operations, ((Popup.hidden size maxEntries).run operations).Anchored) ∧
      ∀ (popup : Popup) (anchor : Anchor), popup.visible = true → popup.anchor = some anchor →
        let size := view.cellSize popup
        (3 ≤ size.1 ∧ 3 ≤ size.2) ∧
          ((view.rect? popup area).isSome = true ↔ 0 < area.width ∧ 0 < area.height) ∧
          (∀ rect, view.rect? popup area = some rect →
            Fitted anchor.x area.x area.width size.1 rect.x rect.width ∧
              Fitted anchor.y area.y area.height size.2 rect.y rect.height) ∧
          (anchor.Signed → view.checkedRect? popup area = some (view.rect? popup area)) := by
  refine ⟨Popup.anchored_run, ?_⟩
  intro popup anchor hvisible hanchor size
  have hwidth : 3 ≤ size.1 := three_le_cells _ _
  have hheight : 3 ≤ size.2 := three_le_cells _ _
  have hrect := rect?_eq_placed hvisible hanchor hright hbottom view
  refine ⟨⟨hwidth, hheight⟩, ?_, ?_, checkedRect?_eq hvisible hanchor hright hbottom view⟩
  · rw [hrect]
    split
    · rename_i harea
      exact iff_of_true rfl harea
    · rename_i harea
      exact iff_of_false Bool.false_ne_true harea
  · intro rect hsome
    rw [hrect] at hsome
    split at hsome
    · rename_i harea
      obtain rfl := Option.some.inj hsome
      exact ⟨fitted_along _ _ harea.1 (Nat.zero_lt_of_lt hwidth),
        fitted_along _ _ harea.2 (Nat.zero_lt_of_lt hheight)⟩
    · cases hsome

/-- A popup of the largest width without units, in the last corner of the
coordinates, with an anchor far to the left of the area and far below it. -/
theorem rect?_fitted_corner :
    let view : PopupView := { unitsPerColumn := 0, unitsPerRow := 0 }
    let area : Rect := ⟨65530, 65525, 5, 10⟩
    let anchor : Anchor := ⟨-2147483648, 2147483647⟩
    let popup : Popup :=
      { visible := true, anchor := some anchor, size := ⟨4294967295, 2⟩, session := some {} }
    let rect : Rect := ⟨65530, 65534, 5, 1⟩
    (area.x + area.width ≤ maxCell ∧ area.y + area.height ≤ maxCell) ∧
      view.cellSize popup = (65535, 3) ∧ view.rect? popup area = some rect ∧
      Fitted anchor.x area.x area.width 65535 rect.x rect.width ∧
      Fitted anchor.y area.y area.height 3 rect.y rect.height ∧
      view.checkedRect? popup area = some (some rect) := by
  intro view area anchor popup rect
  obtain ⟨_, hfitted⟩ := rect?_fitted view area (by decide) (by decide)
  obtain ⟨_, _, hcells, hchecked⟩ := hfitted popup anchor rfl rfl
  have hrect : view.rect? popup area = some rect := by decide
  have hsize : view.cellSize popup = (65535, 3) := by decide
  obtain ⟨hcolumns, hrows⟩ := hcells rect hrect
  rw [hsize] at hcolumns hrows
  exact ⟨by decide, hsize, hrect, hcolumns, hrows, hrect ▸ hchecked (by decide)⟩

end PopupView

end ClassExpr
