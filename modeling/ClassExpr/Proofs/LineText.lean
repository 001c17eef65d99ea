/-
A text that is kept as lines.

A position cuts the lines into what is above and left of it and what is right
of it and below, and these are the text before and behind its offset.  So the
offsets of a text and the positions in its lines are the same thing, and an
edit between two positions is one between two offsets.
-/
import Mathlib.Data.List.Induction
import Mathlib.Data.List.TakeWhile
import ClassExpr.Terminal.TextArea

namespace ClassExpr

namespace Text

theorem lines_eq_splitOn (text : Text) : lines text = text.splitOn '\n' := by
  induction text with
  | nil => rfl
  | cons c rest ih =>
      rw [lines_cons, List.splitOn_cons_eq_if_modifyHead, ← ih]
      unfold consLine
      by_cases hc : c = '\n'
      · simp [hc]
      · cases hlines : lines rest with
        | nil => exact absurd hlines (lines_ne_nil rest)
        | cons line lines => simp [hc]

theorem unlines_lines (text : Text) : unlines (lines text) = text := by
  rw [lines_eq_splitOn]
  exact List.intercalate_splitOn '\n'

theorem lines_unlines {lines : List Text} (hlines : lines ≠ [])
    (hbreak : ∀ line ∈ lines, '\n' ∉ line) : Text.lines (unlines lines) = lines := by
  rw [lines_eq_splitOn]
  exact List.splitOn_intercalate '\n' hbreak hlines

theorem break_not_mem_of_mem_lines {text line : Text} (hline : line ∈ lines text) :
    '\n' ∉ line := by
  induction text generalizing line with
  | nil =>
      rw [lines_nil, List.mem_singleton] at hline
      simp [hline]
  | cons c rest ih =>
      rw [lines_cons] at hline
      unfold consLine at hline
      split at hline
      · rcases List.mem_cons.1 hline with rfl | hline
        · simp
        · exact ih hline
      · rename_i hc
        split at hline
        · rename_i hnil
          exact absurd hnil (lines_ne_nil rest)
        · rename_i first others hlines
          rw [hlines] at ih
          rcases List.mem_cons.1 hline with rfl | hline
          · have hfirst := ih List.mem_cons_self
            simp [Ne.symm hc, hfirst]
          · exact ih (List.mem_cons_of_mem _ hline)

theorem unlines_cons (line : Text) {rest : List Text} (hrest : rest ≠ []) :
    unlines (line :: rest) = line ++ '\n' :: unlines rest := by
  cases rest with
  | nil => exact absurd rfl hrest
  | cons next rest => simp [unlines, List.intercalate_cons_cons]

/-- Two texts follow one another if the last line of one and the first of the
other become one line. -/
theorem unlines_join (above : List Text) (left right : Text) (below : List Text) :
    unlines (above ++ (left ++ right) :: below) =
      unlines (above ++ [left]) ++ unlines (right :: below) := by
  induction above with
  | nil =>
      cases below with
      | nil => simp [unlines]
      | cons next below => simp [unlines, List.intercalate_cons_cons]
  | cons line above ih =>
      rw [List.cons_append, List.cons_append, unlines_cons _ (by simp),
        unlines_cons _ (by simp), ih]
      simp

theorem length_unlines_concat (above : List Text) (last : Text) :
    (unlines (above ++ [last])).length =
      above.foldr (fun line count => line.length + 1 + count) last.length := by
  induction above with
  | nil => simp [unlines]
  | cons line above ih =>
      rw [List.cons_append, unlines_cons _ (by simp), List.length_append, List.length_cons, ih,
        List.foldr_cons]
      omega

theorem breaks_eq_zero {line : Text} (hline : '\n' ∉ line) : breaks line = 0 := by
  refine List.countP_eq_zero.2 fun c hc => ?_
  have hne : c ≠ '\n' := fun h => hline (h ▸ hc)
  simpa using hne

theorem lastLine_eq_self {line : Text} (hline : '\n' ∉ line) : lastLine line = line := by
  have hall : line.reverse.takeWhile (· != '\n') = line.reverse := by
    refine List.takeWhile_eq_self_iff.2 fun c hc => ?_
    have hne : c ≠ '\n' := fun h => hline (h ▸ List.mem_reverse.1 hc)
    simpa using hne
  rw [lastLine, hall, List.reverse_reverse]

theorem lastLine_append_break (above below : Text) :
    lastLine (above ++ '\n' :: below) = lastLine below := by
  unfold lastLine
  rw [List.reverse_append, List.reverse_cons, List.append_assoc, List.singleton_append,
    List.takeWhile_append]
  split
  · rename_i hall
    rw [List.takeWhile_cons_of_neg (by simp), List.append_nil,
      (List.takeWhile_prefix _).eq_of_length hall]
  · rfl

theorem breaks_unlines_concat {above : List Text} (habove : ∀ line ∈ above, '\n' ∉ line)
    {last : Text} (hlast : '\n' ∉ last) : breaks (unlines (above ++ [last])) = above.length := by
  induction above with
  | nil => simpa [unlines] using breaks_eq_zero hlast
  | cons line above ih =>
      obtain ⟨hline, hrest⟩ := List.forall_mem_cons.1 habove
      have hzero := breaks_eq_zero hline
      have hbelow := ih hrest
      rw [List.cons_append, unlines_cons _ (by simp)]
      unfold breaks at hzero hbelow ⊢
      rw [List.countP_append, List.countP_cons, hzero, hbelow]
      simp

theorem lastLine_unlines_concat (above : List Text) {last : Text} (hlast : '\n' ∉ last) :
    lastLine (unlines (above ++ [last])) = last := by
  induction above with
  | nil => simpa [unlines] using lastLine_eq_self hlast
  | cons line above ih =>
      rw [List.cons_append, unlines_cons _ (by simp), lastLine_append_break, ih]

end Text

theorem Position.before_iff {first last : Position} :
    first.before last = true ↔
      first.row < last.row ∨ first.row = last.row ∧ first.col < last.col := by
  simp [before]

namespace Lines

variable {lines : Lines} {position : Position} {before after : Text}

/-- A position that is in some line or right behind it. -/
def Holds (lines : Lines) (position : Position) : Prop :=
  position.row < lines.length ∧ position.col ≤ (lines.line position.row).length

instance (lines : Lines) (position : Position) : Decidable (lines.Holds position) :=
  inferInstanceAs (Decidable (_ ∧ _))

theorem line_mem {row : Nat} (hrow : row < lines.length) : lines.line row ∈ lines := by
  rw [line, List.getElem?_eq_getElem hrow]
  exact List.getElem_mem hrow

/-- The offset of a position in the text of the lines. -/
def offset (lines : Lines) (position : Position) : Nat :=
  (lines.take position.row).foldr (fun line count => line.length + 1 + count) position.col

/-- A position between two parts of the text. -/
structure CutAt (lines : Lines) (position : Position) (before after : Text) : Prop where
  holds : lines.Holds position
  offset : lines.offset position = before.length
  text : Text.unlines lines = before ++ after

theorem cutAt_join (above : Lines) (left right : Text) (below : Lines) :
    CutAt (above ++ (left ++ right) :: below) ⟨above.length, left.length⟩
      (Text.unlines (above ++ [left])) (Text.unlines (right :: below)) where
  holds := by
    simp [Holds, line]
  offset := by
    rw [Text.length_unlines_concat]
    simp [Lines.offset]
  text := Text.unlines_join above left right below

theorem CutAt.before_eq (hcut : lines.CutAt position before after) :
    before = (Text.unlines lines).take (lines.offset position) := by
  rw [hcut.text, hcut.offset, List.take_left]

theorem CutAt.after_eq (hcut : lines.CutAt position before after) :
    after = (Text.unlines lines).drop (lines.offset position) := by
  rw [hcut.text, hcut.offset, List.drop_left]

/-- The parts of the text are the lines above and left of the position, and
those right of it and below. -/
theorem Holds.cutAt_sides (hholds : lines.Holds position) :
    lines.CutAt position
      (Text.unlines (lines.take position.row ++ [(lines.line position.row).take position.col]))
      (Text.unlines
        ((lines.line position.row).drop position.col :: lines.drop (position.row + 1))) := by
  obtain ⟨hrow, hcol⟩ := hholds
  have hcut := cutAt_join (lines.take position.row) ((lines.line position.row).take position.col)
    ((lines.line position.row).drop position.col) (lines.drop (position.row + 1))
  have hlines : lines.take position.row ++
      lines.line position.row :: lines.drop (position.row + 1) = lines := by
    rw [line, List.getElem?_eq_getElem hrow, Option.getD_some, List.getElem_cons_drop,
      List.take_append_drop]
  rwa [List.take_append_drop, hlines, List.length_take_of_le (Nat.le_of_lt hrow),
    List.length_take_of_le hcol] at hcut

/-- A position cuts the text at its offset. -/
theorem Holds.cutAt (hholds : lines.Holds position) :
    lines.CutAt position ((Text.unlines lines).take (lines.offset position))
      ((Text.unlines lines).drop (lines.offset position)) := by
  have hcut := hholds.cutAt_sides
  rwa [hcut.before_eq, hcut.after_eq] at hcut

/-- The row of a position counts the line breaks before it, and its column the
characters of its line. -/
theorem Holds.eq_of_unbroken (hholds : lines.Holds position)
    (hbreak : ∀ line ∈ lines, '\n' ∉ line) :
    position.row = Text.breaks ((Text.unlines lines).take (lines.offset position)) ∧
      position.col =
        (Text.lastLine ((Text.unlines lines).take (lines.offset position))).length := by
  obtain ⟨hrow, hcol⟩ := hholds
  have habove : ∀ line ∈ lines.take position.row, '\n' ∉ line :=
    fun line hline => hbreak line (List.mem_of_mem_take hline)
  have hleft : '\n' ∉ (lines.line position.row).take position.col :=
    fun h => hbreak _ (line_mem hrow) (List.mem_of_mem_take h)
  rw [← (Holds.cutAt_sides ⟨hrow, hcol⟩).before_eq, Text.breaks_unlines_concat habove hleft,
    Text.lastLine_unlines_concat _ hleft, List.length_take_of_le (Nat.le_of_lt hrow),
    List.length_take_of_le hcol]
  exact ⟨rfl, rfl⟩

theorem Holds.offset_le (hholds : lines.Holds position) :
    lines.offset position ≤ (Text.unlines lines).length := by
  have hlength := hholds.cutAt.offset
  rw [List.length_take] at hlength
  omega

theorem Holds.cutAt_deleteBetween {first : Position} (hfirst : lines.Holds first)
    (last : Position) :
    (lines.deleteBetween first last).CutAt first
      ((Text.unlines lines).take (lines.offset first))
      (Text.unlines ((lines.line last.row).drop last.col :: lines.drop (last.row + 1))) := by
  have hcut := cutAt_join (lines.take first.row) ((lines.line first.row).take first.col)
    ((lines.line last.row).drop last.col) (lines.drop (last.row + 1))
  rwa [hfirst.cutAt_sides.before_eq, List.length_take_of_le (Nat.le_of_lt hfirst.1),
    List.length_take_of_le hfirst.2] at hcut

/-- Deleting the text between two positions joins what is before the first
and what is behind the last. -/
theorem CutAt.deleteBetween {first last : Position} {before' after' : Text}
    (hfirst : lines.CutAt first before after) (hlast : lines.CutAt last before' after') :
    (lines.deleteBetween first last).CutAt first before after' := by
  rw [hfirst.before_eq, hlast.after_eq, ← hlast.holds.cutAt_sides.after_eq]
  exact hfirst.holds.cutAt_deleteBetween last

/-- Inserted pieces stand between what was before the position and what was
behind it. -/
theorem CutAt.insertAt (hcut : lines.CutAt position before after) {pieces : Lines}
    (hpieces : pieces ≠ []) :
    (lines.insertAt position pieces).CutAt (position.behind pieces)
      (before ++ Text.unlines pieces) after := by
  have hsides := hcut.holds.cutAt_sides
  have hrow := List.length_take_of_le (Nat.le_of_lt hcut.holds.1)
  have hcol := List.length_take_of_le hcut.holds.2
  rw [hcut.before_eq, ← hsides.before_eq, hcut.after_eq, ← hsides.after_eq]
  match pieces with
  | [] => exact absurd rfl hpieces
  | [piece] =>
      have hjoin := cutAt_join (lines.take position.row)
        ((lines.line position.row).take position.col ++ piece)
        ((lines.line position.row).drop position.col) (lines.drop (position.row + 1))
      rw [Text.unlines_join, hrow, List.length_append, hcol] at hjoin
      exact hjoin
  | first :: second :: rest =>
      -- The first piece ends the line of the position and the last one begins the line
      -- of what was behind it, so the cut is in the last piece's line.
      have hlast : (second :: rest).dropLast ++ [(second :: rest).getLast?.getD []] =
          second :: rest := by
        rw [List.getLast?_eq_some_getLast (List.cons_ne_nil _ _), Option.getD_some,
          List.dropLast_concat_getLast]
      have hjoin := cutAt_join
        (lines.take position.row ++
          ((lines.line position.row).take position.col ++ first) :: (second :: rest).dropLast)
        ((second :: rest).getLast?.getD [])
        ((lines.line position.row).drop position.col) (lines.drop (position.row + 1))
      rw [List.append_assoc, List.append_assoc, List.cons_append, List.cons_append, hlast,
        Text.unlines_join, List.length_append, hrow, List.length_cons, List.length_dropLast,
        Nat.sub_add_cancel (by simp)] at hjoin
      exact hjoin

theorem holds_cons_succ {line : Text} {row col : Nat} :
    Holds (line :: lines) ⟨row + 1, col⟩ ↔ lines.Holds ⟨row, col⟩ := by
  simp [Holds, Lines.line]

theorem offset_zero (lines : Lines) (col : Nat) : lines.offset ⟨0, col⟩ = col := by
  simp [offset]

theorem offset_cons_succ (line : Text) (lines : Lines) (row col : Nat) :
    offset (line :: lines) ⟨row + 1, col⟩ = line.length + 1 + lines.offset ⟨row, col⟩ := by
  simp [offset, Nat.add_assoc]

/-- The search for an offset, line by line, finds the position with that
offset. -/
theorem positionFrom_eq_some_iff (row : Nat) (lines : Lines) (offset : Nat) (found : Position) :
    TextArea.positionFrom row lines offset = some found ↔
      ∃ position, lines.Holds position ∧ lines.offset position = offset ∧
        found = ⟨row + position.row, position.col⟩ := by
  induction lines generalizing row offset with
  | nil => simp [TextArea.positionFrom, Holds]
  | cons line lines ih =>
      rw [TextArea.positionFrom]
      split
      · rename_i hoffset
        constructor
        · rintro ⟨⟩
          exact ⟨⟨0, offset⟩, by simpa [Holds, Lines.line] using hoffset,
            Lines.offset_zero _ _, rfl⟩
        · rintro ⟨⟨row', col⟩, hholds, heq, rfl⟩
          cases row' with
          | zero => simp [← heq, offset_zero]
          | succ row' =>
              rw [offset_cons_succ] at heq
              omega
      · rename_i hoffset
        rw [ih]
        constructor
        · rintro ⟨⟨row', col⟩, hholds, heq, rfl⟩
          refine ⟨⟨row' + 1, col⟩, holds_cons_succ.2 hholds, ?_, ?_⟩
          · rw [offset_cons_succ]
            omega
          · simp only [Position.mk.injEq, and_true]
            omega
        · rintro ⟨⟨row', col⟩, hholds, heq, rfl⟩
          cases row' with
          | zero =>
              have hcol : col ≤ line.length := by simpa [Holds, Lines.line] using hholds
              rw [offset_zero] at heq
              omega
          | succ row' =>
              rw [offset_cons_succ] at heq
              refine ⟨⟨row', col⟩, holds_cons_succ.1 hholds, by omega, ?_⟩
              simp only [Position.mk.injEq, and_true]
              omega

theorem exists_holds_of_le (hlines : lines ≠ []) {offset : Nat}
    (hoffset : offset ≤ (Text.unlines lines).length) :
    ∃ position, lines.Holds position ∧ lines.offset position = offset := by
  induction lines generalizing offset with
  | nil => exact absurd rfl hlines
  | cons line rest ih =>
      by_cases hline : offset ≤ line.length
      · exact ⟨⟨0, offset⟩, by simpa [Holds, Lines.line] using hline, Lines.offset_zero _ _⟩
      · have hrest : rest ≠ [] := by
          rintro rfl
          simp [Text.unlines] at hoffset
          omega
        rw [Text.unlines_cons line hrest, List.length_append, List.length_cons] at hoffset
        have hbelow : offset - (line.length + 1) ≤ (Text.unlines rest).length := by omega
        obtain ⟨⟨row, col⟩, hholds, heq⟩ := ih hrest hbelow
        refine ⟨⟨row + 1, col⟩, holds_cons_succ.2 hholds, ?_⟩
        rw [offset_cons_succ]
        omega

/-- The positions of a text are in the order of their offsets. -/
theorem Holds.before_iff {first last : Position} (hfirst : lines.Holds first)
    (hlast : lines.Holds last) :
    first.before last = true ↔ lines.offset first < lines.offset last := by
  obtain ⟨row, col⟩ := first
  obtain ⟨row', col'⟩ := last
  induction lines generalizing row row' with
  | nil => exact absurd hfirst.1 (Nat.not_lt_zero _)
  | cons line lines ih =>
      simp only [Position.before_iff] at ih ⊢
      cases row with
      | zero =>
          have hcol : col ≤ line.length := hfirst.2
          cases row' with
          | zero =>
              rw [offset_zero, offset_zero]
              omega
          | succ row' =>
              rw [offset_zero, offset_cons_succ]
              omega
      | succ row =>
          cases row' with
          | zero =>
              have hcol' : col' ≤ line.length := hlast.2
              rw [offset_zero, offset_cons_succ]
              omega
          | succ row' =>
              have hrest := ih row (holds_cons_succ.1 hfirst) row' (holds_cons_succ.1 hlast)
              rw [offset_cons_succ, offset_cons_succ]
              omega

theorem holds_nearest (hlines : lines ≠ []) (position : Position) :
    lines.Holds (lines.nearest position) := by
  have hlength := List.length_pos_iff.2 hlines
  exact ⟨Nat.lt_of_le_of_lt (Nat.min_le_right _ _) (by omega), Nat.min_le_right _ _⟩

theorem Holds.nearest_eq (hholds : lines.Holds position) : lines.nearest position = position := by
  obtain ⟨hrow, hcol⟩ := hholds
  unfold nearest fit
  rw [Nat.min_eq_left (by omega), Nat.min_eq_left hcol]

end Lines

namespace TextArea

theorem offset_eq (area : TextArea) (position : Position) :
    area.offset position = area.lines.offset position := by
  -- The count of the lines above is carried along from the left.
  suffices hfold : ∀ (lines : Lines) (base : Nat),
      lines.foldl (fun count line => count + (line.length + 1)) base + position.col =
        base + lines.foldr (fun line count => line.length + 1 + count) position.col by
    exact (hfold _ 0).trans (Nat.zero_add _)
  intro lines
  induction lines with
  | nil => intro base; rfl
  | cons line rest ih =>
      intro base
      rw [List.foldl_cons, ih, List.foldr_cons]
      omega

theorem position?_eq_some_iff {area : TextArea} {offset : Nat} {position : Position} :
    area.position? offset = some position ↔
      area.lines.Holds position ∧ area.lines.offset position = offset := by
  unfold position?
  rw [Lines.positionFrom_eq_some_iff]
  constructor
  · rintro ⟨position, hholds, hoffset, rfl⟩
    simpa using ⟨hholds, hoffset⟩
  · rintro ⟨hholds, hoffset⟩
    exact ⟨position, hholds, hoffset, by simp⟩

theorem length_eq (area : TextArea) : area.length = area.text.length := by
  unfold length text
  rw [← List.foldl_map, ← List.sum_eq_foldl]
  induction area.lines with
  | nil => rfl
  | cons line rest ih =>
      cases rest with
      | nil => simp [Text.unlines]
      | cons next rest =>
          rw [Text.unlines_cons line (List.cons_ne_nil next rest)]
          simp only [List.map_cons, List.sum_cons, List.length_append, List.length_cons] at ih ⊢
          omega

end TextArea

end ClassExpr
