/-
What the cells of a line show.

A piece of text is drawn cluster by cluster.  The columns that it fills are told
here from the text alone, and a line that is blank shows them once the text is
drawn.  So does a line that shows something already, behind what it shows.
-/
import Mathlib.Data.List.Basic
import Mathlib.Data.List.ModifyLast
import ClassExpr.Proofs.CanvasRows

namespace ClassExpr

namespace Text

/-- The clusters that fit into some columns, up to the first that does not. -/
def fitting : Nat → List Text → List Text
  | _, [] => []
  | room, cluster :: rest =>
    if room < width cluster then [] else cluster :: fitting (room - width cluster) rest

/-- A cluster behind some columns.  It stands in its first column and leaves its
other columns blank; without width it joins the column before it. -/
def addColumns (columns : List Text) (cluster : Text) : List Text :=
  if width cluster = 0 then columns.modifyLast (· ++ cluster)
  else columns ++ cluster :: List.replicate (width cluster - 1) [' ']

/-- The columns that clusters fill.  What comes before the first cluster with a
width is held for the column of that cluster. -/
def columnsFrom (held : Option Text) : List Text → List Text
  | [] => held.toList
  | cluster :: rest =>
    let shown := held.getD [] ++ cluster
    if width cluster = 0 then columnsFrom (some shown) rest
    else rest.foldl addColumns (shown :: List.replicate (width cluster - 1) [' '])

/-- The columns that a text fills where there is room for some.  Line breaks take
none, and a text without width is not shown. -/
def columns (room : Nat) (text : Text) : List Text :=
  if width text = 0 ∨ room = 0 then []
  else columnsFrom none (fitting room ((clusters text).filter (· != ['\n'])))

@[simp] theorem columns_zero (text : Text) : columns 0 text = [] := by
  simp [columns]

theorem length_addColumns {columns : List Text} (hcolumns : columns ≠ []) (cluster : Text) :
    (addColumns columns cluster).length = columns.length + width cluster := by
  unfold addColumns
  split
  · rename_i hwidth
    obtain ⟨init, last, rfl⟩ := (List.eq_nil_or_concat' columns).resolve_left hcolumns
    simp [List.modifyLast_concat, hwidth]
  · simp
    omega

theorem foldl_addColumns_append (front : List Text) {columns : List Text}
    (hcolumns : columns ≠ []) (clusters : List Text) :
    clusters.foldl addColumns (front ++ columns) = front ++ clusters.foldl addColumns columns := by
  induction clusters generalizing columns with
  | nil => rfl
  | cons cluster rest ih =>
      have hadd : addColumns (front ++ columns) cluster = front ++ addColumns columns cluster := by
        unfold addColumns
        split
        · exact List.modifyLast_append_of_right_ne_nil _ _ _ hcolumns
        · exact List.append_assoc _ _ _
      have hsome : addColumns columns cluster ≠ [] := by
        apply List.ne_nil_of_length_pos
        rw [length_addColumns hcolumns]
        exact Nat.lt_add_right _ (List.length_pos_iff.2 hcolumns)
      rw [List.foldl_cons, List.foldl_cons, hadd, ih hsome]

theorem fitting_of_narrow {clusters : List Text} (hnarrow : ∀ cluster ∈ clusters, width cluster = 1)
    (room : Nat) : fitting room clusters = clusters.take room := by
  induction clusters generalizing room with
  | nil => simp [fitting]
  | cons cluster rest ih =>
      rw [List.forall_mem_cons] at hnarrow
      cases room with
      | zero => simp [fitting, hnarrow.1]
      | succ room => simp [fitting, hnarrow.1, ih hnarrow.2]

theorem foldl_addColumns_of_narrow {clusters : List Text}
    (hnarrow : ∀ cluster ∈ clusters, width cluster = 1) (front : List Text) :
    clusters.foldl addColumns front = front ++ clusters := by
  induction clusters generalizing front with
  | nil => simp
  | cons cluster rest ih =>
      rw [List.forall_mem_cons] at hnarrow
      simp [addColumns, hnarrow.1, ih hnarrow.2]

/-- A text of clusters that are one column wide fills one column with each. -/
theorem columns_of_narrow {text : Text} (hwidth : width text ≠ 0)
    (hnarrow : ∀ cluster ∈ clusters text, width cluster = 1 ∧ cluster ≠ ['\n']) (room : Nat) :
    columns room text = (clusters text).take room := by
  have hdrawn : (clusters text).filter (· != ['\n']) = clusters text := by
    rw [List.filter_eq_self]
    exact fun cluster hcluster => bne_iff_ne.2 (hnarrow cluster hcluster).2
  have hone : ∀ cluster ∈ (clusters text).take room, width cluster = 1 := fun cluster hcluster =>
    (hnarrow cluster (List.mem_of_mem_take hcluster)).1
  unfold columns
  split
  · rename_i hnone
    rw [hnone.resolve_left hwidth, List.take_zero]
  · rw [hdrawn, fitting_of_narrow fun cluster hcluster => (hnarrow cluster hcluster).1]
    cases hlist : (clusters text).take room with
    | nil => rfl
    | cons cluster rest =>
        rw [hlist, List.forall_mem_cons] at hone
        simp [columnsFrom, hone.1, foldl_addColumns_of_narrow hone.2]

end Text

namespace Rect

theorem contains_iff {rect : Rect} {x y : Nat} :
    rect.contains x y = true ↔ (rect.x ≤ x ∧ x < rect.right) ∧ rect.y ≤ y ∧ y < rect.bottom := by
  simp [contains, and_assoc]

theorem isEmpty_eq_false_iff {rect : Rect} :
    rect.isEmpty = false ↔ 0 < rect.width ∧ 0 < rect.height := by
  simp [isEmpty, Nat.pos_iff_ne_zero]

theorem right_eq {rect : Rect} (hright : rect.x + rect.width ≤ maxCell) :
    rect.right = rect.x + rect.width :=
  Nat.min_eq_left hright

theorem bottom_eq {rect : Rect} (hbottom : rect.y + rect.height ≤ maxCell) :
    rect.bottom = rect.y + rect.height :=
  Nat.min_eq_left hbottom

end Rect

namespace Canvas

variable {canvas : Canvas} {y left stop : Nat}

/-- The cell at a place of the screen, if the canvas has it. -/
def cell? (canvas : Canvas) (x y : Nat) : Option Cell :=
  if canvas.area.x ≤ x then (canvas.row? y).bind fun row => row[x - canvas.area.x]? else none

def symbol? (canvas : Canvas) (x y : Nat) : Option Text :=
  (canvas.cell? x y).map Cell.symbol

/-- A canvas with all cells of a rectangle. -/
def Covers (canvas : Canvas) (rect : Rect) : Prop :=
  ∀ x y, rect.contains x y = true → (canvas.cell? x y).isSome = true

/-- From the column `left` up to `stop` the cells of the line `y` show some
columns and blanks behind them. -/
def ShowsColumns (canvas : Canvas) (y left stop : Nat) (columns : List Text) : Prop :=
  ∀ x, left ≤ x → x < stop → canvas.symbol? x y = some (columns[x - left]?.getD [' '])

theorem cell?_eq_of_row? {other : Canvas} (harea : canvas.area = other.area)
    (hrow : canvas.row? y = other.row? y) (x : Nat) : canvas.cell? x y = other.cell? x y := by
  rw [cell?, cell?, harea, hrow]

theorem cell?_modify (canvas : Canvas) (x y : Nat) (change : Cell → Cell) (column line : Nat) :
    (canvas.modify x y change).cell? column line =
      if column = x ∧ line = y then (canvas.cell? column line).map change
      else canvas.cell? column line := by
  by_cases hcolumn : canvas.area.x ≤ column
  · simp only [cell?, area_modify, if_pos hcolumn, row?_modify]
    by_cases hline : line = y
    · by_cases hx : canvas.area.x ≤ x
      · have hsame : x - canvas.area.x = column - canvas.area.x ↔ column = x := by omega
        rw [if_pos ⟨hline, hx⟩]
        cases canvas.row? line with
        | none => simp
        | some row => simp [Array.getElem?_modify, hsame, hline]
      · have hne : column ≠ x := by omega
        simp [hx, hne]
    · simp [hline]
  · simp [cell?, area_modify, hcolumn]

/-- Cells that are changed one after another along a row, or rows along a
rectangle: each place is met once, at its own index. -/
theorem cell?_foldl_range' {draw : Canvas → Nat → Canvas} {change : Cell → Cell}
    {column line index : Nat} {inside : Prop} [Decidable inside]
    (hdraw : ∀ canvas item, (draw canvas item).cell? column line =
      if index = item ∧ inside then (canvas.cell? column line).map change
      else canvas.cell? column line)
    (first count : Nat) (canvas : Canvas) :
    ((List.range' first count).foldl draw canvas).cell? column line =
      if (first ≤ index ∧ index < first + count) ∧ inside then
        (canvas.cell? column line).map change
      else canvas.cell? column line := by
  induction count generalizing first canvas with
  | zero => rw [List.range'_zero, List.foldl_nil, if_neg (by omega)]
  | succ count ih =>
      rw [List.range'_succ, List.foldl_cons, ih, hdraw]
      by_cases hfirst : index = first
      · have hpassed : ¬ (first + 1 ≤ index ∧ index < first + 1 + count) := by omega
        have hmet : first ≤ index ∧ index < first + (count + 1) := by omega
        simp only [hpassed, hmet, false_and, if_false, true_and, and_self]
        simp only [hfirst, true_and]
      · have hrest : first + 1 ≤ index ∧ index < first + 1 + count ↔
            first ≤ index ∧ index < first + (count + 1) := by omega
        simp only [hfirst, hrest, false_and, if_false]

theorem cell?_modifyRect (canvas : Canvas) (rect : Rect) (change : Cell → Cell)
    (column line : Nat) :
    (canvas.modifyRect rect change).cell? column line =
      if (rect.y ≤ line ∧ line < rect.y + rect.height) ∧
          rect.x ≤ column ∧ column < rect.x + rect.width then
        (canvas.cell? column line).map change
      else canvas.cell? column line := by
  refine cell?_foldl_range' (fun canvas y => ?_) rect.y rect.height canvas
  simp only [cell?_foldl_range' (fun canvas x => cell?_modify canvas x y change column line),
    and_comm]

/-- Only the cells at the edges of a rectangle belong to its border. -/
theorem cell?_border (canvas : Canvas) {rect : Rect} (style : Style) {column line : Nat}
    (hleft : column ≠ rect.x) (hright : column ≠ rect.right - 1) (htop : line ≠ rect.y)
    (hbottom : line ≠ rect.bottom - 1) :
    (canvas.border rect style).cell? column line = canvas.cell? column line := by
  have hput : ∀ (canvas : Canvas) (x y : Nat) (symbol : Text), column ≠ x ∨ line ≠ y →
      (canvas.put x y symbol style).cell? column line = canvas.cell? column line := by
    intro canvas x y symbol hother
    rw [put, cell?_modify, if_neg (by omega)]
  have hside : ∀ (items : List Nat) (draw : Canvas → Nat → Canvas),
      (∀ canvas item, (draw canvas item).cell? column line = canvas.cell? column line) →
      ∀ canvas, (items.foldl draw canvas).cell? column line = canvas.cell? column line := by
    intro items draw hdraw canvas
    refine List.foldlRecOn items draw
      (motive := fun drawn => drawn.cell? column line = canvas.cell? column line) rfl ?_
    exact fun drawn hdrawn item _ => (hdraw drawn item).trans hdrawn
  rw [border, hput _ _ _ _ (.inl hleft), hput _ _ _ _ (.inl hleft), hput _ _ _ _ (.inl hright),
    hput _ _ _ _ (.inl hright), hside _ _ fun canvas x => hput canvas x _ _ (.inr hbottom),
    hside _ _ fun canvas y => hput canvas _ y _ (.inl hright),
    hside _ _ fun canvas x => hput canvas x _ _ (.inr htop),
    hside _ _ fun canvas y => hput canvas _ y _ (.inl hleft)]

/-- A blank canvas has all cells of its area. -/
theorem covers_blank (area : Rect) : (blank area).Covers area := by
  intro x y hcell
  obtain ⟨⟨hleft, hright⟩, htop, hbottom⟩ := Rect.contains_iff.1 hcell
  rw [Rect.right] at hright
  rw [Rect.bottom] at hbottom
  have hline : y - area.y < area.height := by omega
  have hcolumn : x - area.x < area.width := by omega
  simp [blank, cell?, row?, htop, hleft, hline, hcolumn]

namespace ShowsColumns

variable {columns front : List Text}

/-- Columns beyond the end of the line are not seen. -/
theorem of_take (hshows : canvas.ShowsColumns y left stop (columns.take (stop - left))) :
    canvas.ShowsColumns y left stop columns := by
  intro x hleft hstop
  have hshown := hshows x hleft hstop
  rwa [List.getElem?_take_of_lt (by omega)] at hshown

/-- Another style leaves the symbols alone. -/
theorem restyle (rect : Rect) (style : Style)
    (hshows : canvas.ShowsColumns y left stop columns) :
    (canvas.modifyRect rect (·.restyle style)).ShowsColumns y left stop columns := by
  intro x hleft hstop
  rw [symbol?, cell?_modifyRect, ← hshows x hleft hstop]
  split
  · rw [Option.map_map]
    rfl
  · rfl

/-- One cell is drawn, behind what a line shows or over the last of it. -/
theorem modify (held : Option Text) {shown : Text} {change : Cell → Cell}
    (hshows : canvas.ShowsColumns y left stop (front ++ held.toList))
    (hchange : ∀ cell : Cell, cell.symbol = held.getD [' '] → (change cell).symbol = shown) :
    (canvas.modify (left + front.length) y change).ShowsColumns y left stop
      (front ++ [shown]) := by
  intro x hleft hstop
  have hbefore := hshows x hleft hstop
  rw [symbol?, cell?_modify]
  by_cases hhere : x = left + front.length
  · obtain ⟨cell, hcell, hsymbol⟩ := Option.map_eq_some_iff.1 hbefore
    subst hhere
    rw [Nat.add_sub_cancel_left] at hsymbol ⊢
    rw [List.getElem?_append_right (Nat.le_refl _), Nat.sub_self] at hsymbol
    have hheld : cell.symbol = held.getD [' '] := by cases held <;> exact hsymbol
    simp [hcell, hchange cell hheld]
  · rw [if_neg fun hmet => hhere hmet.1, ← symbol?, hbefore]
    rcases Nat.lt_or_gt_of_ne hhere with hfront | hbehind
    · have hinside : x - left < front.length := by omega
      rw [List.getElem?_append_left hinside, List.getElem?_append_left hinside]
    · have hend : ∀ last : List Text, last.length ≤ 1 → (front ++ last)[x - left]? = none := by
        intro last hlast
        rw [List.getElem?_eq_none_iff, List.length_append]
        omega
      rw [hend _ (by cases held <;> simp), hend [shown] (by simp)]

/-- The columns that a wide cluster hides are blank. -/
theorem hide (count : Nat) (hshows : canvas.ShowsColumns y left stop columns) :
    ((List.range' (left + columns.length) count).foldl
      (fun canvas hidden => canvas.modify hidden y fun _ => {}) canvas).ShowsColumns y left stop
      (columns ++ List.replicate count [' ']) := by
  induction count generalizing canvas columns with
  | zero => simpa using hshows
  | succ count ih =>
      have hnext : left + columns.length + 1 = left + (columns ++ [[' ']]).length := by simp; omega
      rw [List.range'_succ, List.foldl_cons, List.replicate_succ, List.append_cons, hnext]
      rw [← List.append_nil columns] at hshows
      exact ih (hshows.modify none fun _ _ => rfl)

/-- A cluster of some width is drawn into one cell and hides the columns that it
takes besides. -/
theorem drawWide (held : Option Text) {shown : Text} {change : Cell → Cell} (count : Nat)
    (hshows : canvas.ShowsColumns y left stop (front ++ held.toList))
    (hchange : ∀ cell : Cell, cell.symbol = held.getD [' '] → (change cell).symbol = shown) :
    ((List.range' (left + front.length + 1) count).foldl
      (fun canvas hidden => canvas.modify hidden y fun _ => {})
      (canvas.modify (left + front.length) y change)).ShowsColumns y left stop
      (front ++ shown :: List.replicate count [' ']) := by
  have hdrawn := (hshows.modify held hchange).hide count
  rwa [List.append_assoc, List.length_append, List.length_singleton, ← Nat.add_assoc] at hdrawn

/-- A cluster without width joins the last column. -/
theorem join {cluster : Text} (style : Style)
    (hshows : canvas.ShowsColumns y left stop columns) (hcolumns : columns ≠ [])
    (hwidth : Text.width cluster = 0) :
    (canvas.modify (left + columns.length - 1) y (·.append cluster style)).ShowsColumns y left
      stop (Text.addColumns columns cluster) := by
  obtain ⟨init, last, rfl⟩ := (List.eq_nil_or_concat' columns).resolve_left hcolumns
  have hplace : left + (init ++ [last]).length - 1 = left + init.length := by simp
  rw [Text.addColumns, if_pos hwidth, List.modifyLast_concat, hplace]
  refine ShowsColumns.modify (some last) hshows fun cell hcell => ?_
  rw [Cell.append, hcell, Option.getD_some]

/-- Clusters behind the first column of a text. -/
theorem drawClusters_behind {start : Nat} (style : Style) (clusters : List Text)
    (hshows : canvas.ShowsColumns y left stop columns) (hleft : left ≤ start)
    (hstart : start < left + columns.length) (hroom : left + columns.length ≤ stop)
    (hstop : stop < maxCell) :
    (drawClusters y start stop style canvas false (left + columns.length)
      clusters).ShowsColumns y left stop
      ((Text.fitting (stop - (left + columns.length)) clusters).foldl Text.addColumns columns) := by
  induction clusters generalizing canvas columns with
  | nil => exact hshows
  | cons cluster rest ih =>
      have hcut : stop < min (left + columns.length + Text.width cluster) maxCell ↔
          stop - (left + columns.length) < Text.width cluster := by omega
      simp only [drawClusters, Text.fitting, hcut, Bool.false_eq_true, if_false,
        if_neg (Nat.ne_of_gt hstart)]
      split
      · exact hshows
      · rename_i hfits
        have hcolumns : columns ≠ [] := by
          rintro rfl
          exact absurd hstart (Nat.not_lt.2 hleft)
        have hlength := Text.length_addColumns hcolumns cluster
        have hnext : min (left + columns.length + Text.width cluster) maxCell =
            left + (Text.addColumns columns cluster).length := by omega
        have hrest : stop - (left + columns.length) - Text.width cluster =
            stop - (left + (Text.addColumns columns cluster).length) := by omega
        rw [hnext, hrest, List.foldl_cons]
        refine ih ?_ (by omega) (by omega)
        by_cases hwidth : Text.width cluster = 0
        · have hnone : left + (Text.addColumns columns cluster).length -
              (left + columns.length + 1) = 0 := by omega
          rw [if_pos hwidth, hnone]
          exact hshows.join style hcolumns hwidth
        · have hcount : left + (Text.addColumns columns cluster).length -
              (left + columns.length + 1) = Text.width cluster - 1 := by omega
          rw [if_neg hwidth, hcount, Text.addColumns, if_neg hwidth]
          rw [← List.append_nil columns] at hshows
          exact hshows.drawWide none _ fun _ _ => rfl

/-- The clusters of a text, of which some without width may be drawn already. -/
theorem drawClusters (style : Style) (held : Option Text) (clusters : List Text)
    (hshows : canvas.ShowsColumns y left stop (front ++ held.toList))
    (hroom : left + front.length < stop) (hstop : stop < maxCell) :
    (Canvas.drawClusters y (left + front.length) stop style canvas held.isNone
      (left + front.length) clusters).ShowsColumns y left stop
      (front ++ Text.columnsFrom held (Text.fitting (stop - (left + front.length)) clusters)) := by
  induction clusters generalizing canvas held with
  | nil => exact hshows
  | cons cluster rest ih =>
      have hcut : stop < min (left + front.length + Text.width cluster) maxCell ↔
          stop - (left + front.length) < Text.width cluster := by omega
      simp only [Canvas.drawClusters, Text.fitting, hcut, if_true]
      split
      · exact hshows
      · rename_i hfits
        have hnext : min (left + front.length + Text.width cluster) maxCell =
            left + front.length + Text.width cluster := by omega
        -- The first cluster replaces what is there, the others join it.
        obtain ⟨change, hchange, hdraw⟩ : ∃ change : Cell → Cell,
            (∀ cell : Cell, cell.symbol = held.getD [' '] →
              (change cell).symbol = held.getD [] ++ cluster) ∧
            (if held.isNone = true then canvas.put (left + front.length) y cluster style
              else canvas.modify (left + front.length) y (·.append cluster style)) =
              canvas.modify (left + front.length) y change := by
          cases held with
          | none => exact ⟨_, fun _ _ => rfl, rfl⟩
          | some shown =>
              refine ⟨_, fun cell hcell => ?_, rfl⟩
              rw [Cell.append, hcell]
              rfl
        have hcount : left + front.length + Text.width cluster - (left + front.length + 1) =
            Text.width cluster - 1 := by omega
        rw [hdraw, hnext, hcount, Text.columnsFrom]
        have hdrawn := hshows.drawWide held (Text.width cluster - 1) hchange
        by_cases hwidth : Text.width cluster = 0
        · rw [if_pos hwidth]
          simp only [hwidth, Nat.zero_sub, List.replicate_zero, Nat.sub_zero] at hdrawn ⊢
          exact ih (some (held.getD [] ++ cluster)) hdrawn
        · have hlength : left + front.length + Text.width cluster =
              left + (front ++ (held.getD [] ++ cluster) ::
                List.replicate (Text.width cluster - 1) [' ']).length := by
            simp
            omega
          rw [if_neg hwidth, ← Text.foldl_addColumns_append front (List.cons_ne_nil _ _),
            Nat.sub_sub, hlength]
          exact hdrawn.drawClusters_behind style rest (by omega) (by omega) (by omega) hstop

/-- A piece of text behind what a line shows. -/
theorem drawSpan (text : Text) (style : Style)
    (hshows : canvas.ShowsColumns y left stop front) (hstop : stop < maxCell) :
    (canvas.drawSpan (left + front.length) y stop text style).1.ShowsColumns y left stop
      (front ++ Text.columns (stop - (left + front.length)) text) := by
  have hempty : stop - (left + front.length) = 0 ↔ stop ≤ left + front.length := by omega
  simp only [Canvas.drawSpan, Text.columns, hempty]
  split
  · rwa [List.append_nil]
  · rename_i hsome
    rw [← List.append_nil front] at hshows
    exact hshows.drawClusters style none _ (by omega) hstop

end ShowsColumns

end Canvas

end ClassExpr
