/-
Offsets of a text and positions in its lines.

A line break is one character, so the end of a line and the start of the next
one are neighbouring offsets.  The offsets up to the length of the text are the
positions in the lines, each of them once and in their order: the row counts the
line breaks before the offset and the column the characters behind the last of
them.
-/
import ClassExpr.Proofs.PaneEdits

namespace ClassExpr

namespace TextArea

/-- The difference of two numbers unless it is below zero. -/
def difference? (whole part : Nat) : Option Nat :=
  if part ≤ whole then some (whole - part) else none

/-- The search for an offset in the lines from `row` on, with no answer at all
where it would have to subtract below zero. -/
def checkedPositionFrom (row : Nat) : Lines → Nat → Option (Option Position)
  | [], _ => some none
  | line :: rest, offset =>
    if offset ≤ line.length then some (some ⟨row, offset⟩)
    else
      (difference? offset (line.length + 1)).bind fun offset =>
        checkedPositionFrom (row + 1) rest offset

/-- The search leaves a line only for offsets behind its line break, so it never
subtracts below zero. -/
theorem checkedPositionFrom_eq (row : Nat) (lines : Lines) (offset : Nat) :
    checkedPositionFrom row lines offset = some (positionFrom row lines offset) := by
  induction lines generalizing row offset with
  | nil => rfl
  | cons line rest ih =>
      rw [checkedPositionFrom, positionFrom]
      by_cases hline : offset ≤ line.length
      · rw [if_pos hline, if_pos hline]
      · have hbehind : line.length + 1 ≤ offset := by omega
        rw [if_neg hline, if_neg hline, difference?, if_pos hbehind, Option.bind_some, ih]

/-- The offsets of the text and the positions in its lines name the same places
in the same order. -/
structure Addressed (area : TextArea) : Prop where
  position : ∀ offset, area.position? offset =
    if offset ≤ area.length then
      some ⟨Text.breaks (area.text.take offset),
        (Text.lastLine (area.text.take offset)).length⟩
    else none
  offset_position : ∀ offset position, area.position? offset = some position →
    area.offset position = offset
  position_offset : ∀ row col, row < area.lines.length → col ≤ (area.line row).length →
    area.position? (area.offset ⟨row, col⟩) = some ⟨row, col⟩
  increasing : ∀ first last left right, first < last → area.position? first = some left →
    area.position? last = some right → left.before right = true
  checked : ∀ offset, checkedPositionFrom 0 area.lines offset = some (area.position? offset)

variable {area : TextArea}

theorem position?_eq_none {offset : Nat} (hoffset : area.length < offset) :
    area.position? offset = none := by
  cases hposition : area.position? offset with
  | none => rfl
  | some position =>
      obtain ⟨hholds, rfl⟩ := position?_eq_some_iff.1 hposition
      have hinside := hholds.offset_le
      rw [length_eq, text] at hoffset
      omega

/-- Lines without line breaks that are kept as a text are addressed by the
offsets of that text. -/
theorem addressed (hlines : area.lines ≠ []) (hbreak : area.lines.Unbroken) :
    area.Addressed where
  position := by
    intro offset
    by_cases hoffset : offset ≤ area.length
    · have hinside : offset ≤ (Text.unlines area.lines).length := by
        rwa [length_eq] at hoffset
      obtain ⟨position, hholds, rfl⟩ := Lines.exists_holds_of_le hlines hinside
      obtain ⟨hrow, hcol⟩ := hholds.eq_of_unbroken hbreak
      rw [if_pos hoffset, position?_eq_some_iff.2 ⟨hholds, rfl⟩, text, ← hrow, ← hcol]
    · rw [if_neg hoffset, position?_eq_none (Nat.lt_of_not_le hoffset)]
  offset_position := by
    intro offset position hposition
    rw [offset_eq]
    exact (position?_eq_some_iff.1 hposition).2
  position_offset := by
    intro row col hrow hcol
    rw [offset_eq]
    exact position?_eq_some_iff.2 ⟨⟨hrow, hcol⟩, rfl⟩
  increasing := by
    intro first last left right hlt hleft hright
    obtain ⟨hfirst, rfl⟩ := position?_eq_some_iff.1 hleft
    obtain ⟨hlast, rfl⟩ := position?_eq_some_iff.1 hright
    exact (hfirst.before_iff hlast).2 hlt
  checked := checkedPositionFrom_eq 0 area.lines

end TextArea

namespace Pane

/-- A new pane has the whole text, and its caret is behind the last character.
However it is edited then, its lines are addressed by the offsets of its text,
and so are all lines without line breaks. -/
theorem offsets_address_lines (text : Text) :
    let fresh := ofText text
    (Surface.text fresh = text ∧ fresh.area.length = text.length ∧
        Surface.caret fresh = fresh.area.length) ∧
      (∀ edits, (fresh.run edits).area.Addressed) ∧
      ∀ area : TextArea, area.lines ≠ [] → area.lines.Unbroken → area.Addressed := by
  intro fresh
  have htext : fresh.area.text = text := TextArea.text_ofText text
  have hlength : fresh.area.length = text.length := by
    rw [TextArea.length_eq, htext]
  refine ⟨⟨htext, hlength, ?_⟩, ?_, ?_⟩
  · rw [caret_eq, hlength]
    exact TextArea.caret_ofText text
  · intro edits
    have hwell := wellFormed_run text edits
    exact TextArea.addressed hwell.lines_ne_nil hwell.lines
  · intro area hlines hbreak
    exact TextArea.addressed hlines hbreak

/-- The places around an empty line, in lines of a text area and in a pane with
a line break at the end of its text. -/
theorem offsets_address_lines_empty :
    let area : TextArea := { lines := ["ab".toList, [], "漢c".toList], cursor := ⟨0, 1⟩ }
    let pane := (ofText "a\n".toList).run [.insert 2 "漢\n".toList]
    area.position? 2 = some ⟨0, 2⟩ ∧ area.position? 3 = some ⟨1, 0⟩ ∧
      area.position? 4 = some ⟨2, 0⟩ ∧ area.position? (area.offset ⟨2, 2⟩) = some ⟨2, 2⟩ ∧
      area.position? 7 = none ∧ pane.area.position? 4 = some ⟨2, 0⟩ ∧
      Surface.caret (ofText "a\n".toList) = 2 := by
  intro area pane
  obtain ⟨⟨_, hlength, hcaret⟩, hrun, hlines⟩ := offsets_address_lines "a\n".toList
  have harea := hlines area (by decide) (by unfold Lines.Unbroken; decide)
  exact ⟨(harea.position 2).trans (by decide), (harea.position 3).trans (by decide),
    (harea.position 4).trans (by decide), harea.position_offset 2 2 (by decide) (by decide),
    (harea.position 7).trans (by decide), ((hrun [.insert 2 "漢\n".toList]).position 4).trans
      (by decide), hcaret.trans hlength⟩

end Pane

end ClassExpr
