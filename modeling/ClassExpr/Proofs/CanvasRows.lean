/-
Drawing row by row.

Most of what is drawn on a canvas stays in one row.  Such a drawing touches no
other row, and what it makes of its own row does not depend on the others, so
lines drawn below each other do not disturb one another.
-/
import ClassExpr.Terminal.Canvas

namespace ClassExpr
namespace Canvas

/-- The cells in the row `y` of a canvas. -/
def row? (canvas : Canvas) (y : Nat) : Option (Array Cell) :=
  if canvas.area.y ≤ y then canvas.rows[y - canvas.area.y]? else none

/-- A drawing that stays in the row `y`. -/
structure StaysIn (y : Nat) (draw : Canvas → Canvas) : Prop where
  area : ∀ canvas, (draw canvas).area = canvas.area
  other : ∀ canvas other, other ≠ y → (draw canvas).row? other = canvas.row? other
  same : ∀ left right : Canvas, left.area = right.area → left.row? y = right.row? y →
    (draw left).row? y = (draw right).row? y

theorem row?_modify (canvas : Canvas) (x y : Nat) (change : Cell → Cell) (other : Nat) :
    (canvas.modify x y change).row? other =
      if other = y ∧ canvas.area.x ≤ x then
        (canvas.row? other).map fun row => row.modify (x - canvas.area.x) change
      else canvas.row? other := by
  by_cases hinside : canvas.area.x ≤ x ∧ canvas.area.y ≤ y
  · obtain ⟨hx, hy⟩ := hinside
    by_cases habove : canvas.area.y ≤ other
    · have hrow : other = y ↔ y - canvas.area.y = other - canvas.area.y := by omega
      simp only [modify, row?, hx, hy, habove, and_self, if_true, and_true,
        Array.getElem?_modify, hrow]
    · have hne : other ≠ y := by omega
      simp [modify, row?, hx, hy, habove, hne]
  · have hsame : canvas.modify x y change = canvas := if_neg hinside
    rw [hsame]
    split
    · rename_i hmet
      obtain ⟨rfl, hx⟩ := hmet
      have habove : ¬ canvas.area.y ≤ other := fun hy => hinside ⟨hx, hy⟩
      simp [row?, habove]
    · rfl

theorem area_modify (canvas : Canvas) (x y : Nat) (change : Cell → Cell) :
    (canvas.modify x y change).area = canvas.area := by
  unfold modify
  split <;> rfl

/-- Where a piece of text ends does not depend on what it is drawn over. -/
theorem drawSpan_snd (canvas : Canvas) (x y stop : Nat) (text : Text) (style : Style) :
    (canvas.drawSpan x y stop text style).2 =
      if Text.width text = 0 ∨ stop ≤ x then x else min (x + Text.width text) stop := by
  unfold drawSpan
  split <;> rfl

namespace StaysIn

variable {y : Nat}

theorem id : StaysIn y fun canvas => canvas where
  area _ := rfl
  other _ _ _ := rfl
  same _ _ _ hrow := hrow

theorem comp {first second : Canvas → Canvas} (hsecond : StaysIn y second)
    (hfirst : StaysIn y first) : StaysIn y fun canvas => second (first canvas) where
  area canvas := (hsecond.area _).trans (hfirst.area canvas)
  other canvas other hother :=
    (hsecond.other _ other hother).trans (hfirst.other canvas other hother)
  same left right harea hrow := by
    apply hsecond.same
    · rw [hfirst.area, hfirst.area, harea]
    · exact hfirst.same left right harea hrow

theorem foldl {ι : Type} {draw : Canvas → ι → Canvas} (items : List ι)
    (hdraw : ∀ item, StaysIn y fun canvas => draw canvas item) :
    StaysIn y fun canvas => items.foldl draw canvas := by
  induction items with
  | nil => exact id
  | cons item rest ih => exact ih.comp (hdraw item)

theorem modify (x : Nat) (change : Cell → Cell) :
    StaysIn y fun canvas => canvas.modify x y change where
  area canvas := area_modify canvas x y change
  other canvas other hother := by
    rw [row?_modify, if_neg fun hmet => hother hmet.1]
  same left right harea hrow := by
    rw [row?_modify, row?_modify, harea, hrow]

theorem modifyRect (x width : Nat) (change : Cell → Cell) :
    StaysIn y fun canvas => canvas.modifyRect ⟨x, y, width, 1⟩ change :=
  foldl (List.range' x width) fun column => modify column change

/-- The clusters of a text are drawn into one row, wherever the text is cut. -/
theorem drawClusters (start stop : Nat) (style : Style) (isFirst : Bool) (x : Nat)
    (clusters : List Text) :
    StaysIn y fun canvas => Canvas.drawClusters y start stop style canvas isFirst x clusters := by
  induction clusters generalizing isFirst x with
  | nil => exact id
  | cons cluster rest ih =>
      simp only [Canvas.drawClusters]
      split
      · exact id
      · refine (ih false _).comp ?_
        refine (foldl _ fun hidden => modify hidden _).comp ?_
        -- The cluster starts a cell or joins the one before it.
        split
        · exact modify x _
        · split
          · exact modify x _
          · split
            · exact modify (x - 1) _
            · exact modify x _

theorem drawSpan (x stop : Nat) (text : Text) (style : Style) :
    StaysIn y fun canvas => (canvas.drawSpan x y stop text style).1 := by
  simp only [Canvas.drawSpan]
  split
  · exact id
  · exact drawClusters x stop style true x _

end StaysIn

section Lines

variable {ι : Type} {draw : Canvas → Nat → ι → Canvas}
  (hdraw : ∀ y item, StaysIn y fun canvas => draw canvas y item)
include hdraw

theorem area_foldl {top : Nat} (items : List (ι × Nat)) (canvas : Canvas) :
    (items.foldl (fun canvas item => draw canvas (top + item.2) item.1) canvas).area =
      canvas.area := by
  induction items generalizing canvas with
  | nil => rfl
  | cons item rest ih => exact (ih _).trans ((hdraw _ item.1).area canvas)

/-- Lines drawn below a row leave it alone. -/
theorem row?_foldl_of_lt {y top : Nat} (items : List ι) (count : Nat) (hbelow : y < top + count)
    (canvas : Canvas) :
    ((items.zipIdx count).foldl (fun canvas item => draw canvas (top + item.2) item.1)
      canvas).row? y = canvas.row? y := by
  induction items generalizing canvas count with
  | nil => rfl
  | cons item rest ih =>
      rw [List.zipIdx_cons, List.foldl_cons, ih (count + 1) (by omega)]
      exact (hdraw _ item).other canvas y (by omega)

/-- Of lines drawn below each other, a row shows the one at its height as if it
were the only one. -/
theorem row?_foldl {y top : Nat} (items : List ι) (count : Nat) (habove : top + count ≤ y)
    (canvas : Canvas) :
    ((items.zipIdx count).foldl (fun canvas item => draw canvas (top + item.2) item.1)
      canvas).row? y =
      items[y - (top + count)]?.elim (canvas.row? y) fun item => (draw canvas y item).row? y := by
  induction items generalizing canvas count with
  | nil => rfl
  | cons item rest ih =>
      rw [List.zipIdx_cons, List.foldl_cons]
      have hfirst := hdraw (top + count) item
      by_cases hhere : y = top + count
      · rw [row?_foldl_of_lt hdraw rest (count + 1) (by omega), hhere, Nat.sub_self]
        rfl
      · have hnext : y - (top + count) = y - (top + (count + 1)) + 1 := by omega
        rw [ih (count + 1) (by omega), hnext, List.getElem?_cons_succ]
        cases rest[y - (top + (count + 1))]? with
        | none => exact hfirst.other canvas y hhere
        | some later =>
            exact (hdraw y later).same _ _ (hfirst.area canvas) (hfirst.other canvas y hhere)

end Lines

end Canvas
end ClassExpr
