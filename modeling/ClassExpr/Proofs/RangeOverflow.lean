/-
Ranges whose end is beyond 64 bits.

A pane adds the start and the length of a range before it looks at the text.
Where the sum has more than 64 bits the addition stops the program, while a
buffer refuses the range.  For all other ranges a pane deletes what a buffer
deletes and refuses what a buffer refuses.
-/
import ClassExpr.Proofs.OffsetPositions
import ClassExpr.Proofs.SurfaceAgreement

namespace ClassExpr

namespace Lines

variable {lines : Lines}

theorem length_unlines_lt {most : Nat} (hlines : lines ≠ [])
    (hmost : ∀ line ∈ lines, line.length ≤ most) :
    (Text.unlines lines).length < lines.length * (most + 1) := by
  induction lines with
  | nil => exact absurd rfl hlines
  | cons line rest ih =>
      obtain ⟨hline, hrest⟩ := List.forall_mem_cons.1 hmost
      by_cases hnil : rest = []
      · subst hnil
        rw [Text.unlines, List.intercalate_singleton, List.length_singleton, Nat.one_mul]
        exact Nat.lt_succ_of_le hline
      · have hbelow := ih hnil hrest
        rw [Text.unlines_cons line hnil, List.length_append, List.length_cons, List.length_cons,
          Nat.succ_mul]
        omega

/-- The lengths of texts in reach of a cursor are words of 64 bits. -/
theorem Fits.length_le (hfits : lines.Fits) (hlines : lines ≠ []) :
    (Text.unlines lines).length ≤ Text.max64 := by
  have hlength := length_unlines_lt hlines hfits.cols
  have hcount : lines.length * (maxCell + 1) ≤ (maxCell + 1) * (maxCell + 1) :=
    Nat.mul_le_mul_right _ hfits.rows
  have hwords : (maxCell + 1) * (maxCell + 1) ≤ Text.max64 := by decide
  omega

end Lines

namespace Pane

variable {pane : Pane} {text : Text} {start length : Nat}

/-- A range in the text is deleted and nothing else, any other range is refused
with the pane as it was, and both are what a buffer does. -/
structure RemovesRange (pane : Pane) (start length : Nat) : Prop where
  done : start + length ≤ pane.area.length →
    (pane.remove start length).fault? = none ∧
      Surface.text (pane.remove start length).document =
        (Surface.text pane).take start ++ (Surface.text pane).drop (start + length)
  refused : pane.area.length < start + length →
    pane.remove start length = .refused pane (.outOfRange start length)
  like_buffer : ∀ buffer : Buffer, buffer.text = Surface.text pane →
    (pane.remove start length).fault? = (buffer.remove start length).fault? ∧
      Surface.text (pane.remove start length).document =
        (buffer.remove start length).document.text

theorem removesRange_of_remove_eq (hrange : pane.area.length < start + length)
    (hremove : pane.remove start length = .refused pane (.outOfRange start length)) :
    pane.RemovesRange start length where
  done := fun hinside => absurd hinside (Nat.not_le.2 hrange)
  refused := fun _ => hremove
  like_buffer := by
    intro buffer hbuffer
    have hbehind : buffer.text.length < start + length := by
      rw [TextArea.length_eq] at hrange
      exact hbuffer ▸ hrange
    rw [hremove, buffer.remove_of_lt hbehind]
    exact ⟨rfl, hbuffer.symm⟩

section

variable (hshows : pane.area.Shows text) (hfits : Lines.Fits (Text.lines text))
include hshows hfits

theorem area_length_le : pane.area.length ≤ Text.max64 := by
  have hshort := hfits.length_le (Text.lines_ne_nil text)
  rwa [Text.unlines_lines, ← hshows.text, ← TextArea.length_eq] at hshort

theorem removesRange_of_le (hrange : start + length ≤ pane.area.length) :
    pane.RemovesRange start length := by
  have hinside : start + length ≤ text.length := by
    rwa [TextArea.length_eq, hshows.text] at hrange
  obtain ⟨area, hremove, hremoved⟩ := exists_remove_of_shows hshows hfits hinside
  have htext : Surface.text (pane.remove start length).document =
      (Surface.text pane).take start ++ (Surface.text pane).drop (start + length) := by
    rw [hremove, show Surface.text pane = text from hshows.text]
    exact hremoved.text
  have hdone : (pane.remove start length).fault? = none := by rw [hremove]
  exact
    { done := fun _ => ⟨hdone, htext⟩
      refused := fun hbehind => absurd hrange (Nat.not_le.2 hbehind)
      like_buffer := by
        intro buffer hbuffer
        have hbufferRange : start + length ≤ buffer.text.length := by
          rwa [hbuffer, show Surface.text pane = text from hshows.text]
        rw [hdone, htext, buffer.remove_eq hbufferRange, hbuffer]
        exact ⟨rfl, rfl⟩ }

theorem removesRange_of_le_max64 (hwords : start + length ≤ Text.max64) :
    pane.RemovesRange start length := by
  by_cases hrange : start + length ≤ pane.area.length
  · exact removesRange_of_le hshows hfits hrange
  · have hbehind := Nat.lt_of_not_le hrange
    apply removesRange_of_remove_eq hbehind
    rw [TextArea.length_eq, hshows.text] at hbehind
    exact remove_of_shows_of_lt hshows hwords hbehind

/-- A text in reach of the cursor ends long before such a range does. -/
theorem remove_of_max64_lt (hwide : Text.max64 < start + length) :
    pane.remove start length = .refused pane .overflow := by
  have hbehind := Nat.lt_of_le_of_lt (area_length_le hshows hfits) hwide
  rw [remove, if_pos hbehind, rangeFault, if_neg (Nat.not_le.2 hwide)]

theorem not_removesRange_of_max64_lt (hwide : Text.max64 < start + length) :
    ¬ pane.RemovesRange start length := by
  intro hexact
  have hbehind := Nat.lt_of_le_of_lt (area_length_le hshows hfits) hwide
  have hrefused := hexact.refused hbehind
  rw [remove_of_max64_lt hshows hfits hwide] at hrefused
  cases congrArg Edited.fault? hrefused

end

/-- A pane whose text is in reach of the cursor, with nothing selected, deletes
exactly the ranges of its text and refuses all others as a buffer does, as long
as the end of the range is a number of 64 bits.  Any other range stops the
program. -/
theorem removesRange_iff_le_max64 (text : Text) (actions : List Action)
    (hselection : ((ofText text).performAll actions).area.selection = none)
    (hfits : ((ofText text).performAll actions).area.lines.Fits) (start length : Nat) :
    let pane := (ofText text).performAll actions
    (pane.RemovesRange start length ↔ start + length ≤ Text.max64) ∧
      (Text.max64 < start + length → pane.remove start length = .refused pane .overflow) := by
  intro pane
  have hwell : pane.area.WellFormed :=
    wellFormed_performAll (TextArea.wellFormed_ofText text) actions
  have hshows : pane.area.Shows pane.area.text := ⟨rfl, hwell, hselection⟩
  have hlines : Lines.Fits (Text.lines pane.area.text) := hwell.lines_text.symm ▸ hfits
  refine ⟨⟨?_, ?_⟩, ?_⟩
  · intro hexact
    refine Nat.le_of_not_lt fun hwide => ?_
    exact not_removesRange_of_max64_lt hshows hlines hwide hexact
  · intro hwords
    exact removesRange_of_le_max64 hshows hlines hwords
  · intro hwide
    exact remove_of_max64_lt hshows hlines hwide

/-- A range across a line break, the longest range that starts behind the first
character and is refused, and the first one that stops the program. -/
theorem removesRange_iff_le_max64_break :
    let actions : List Action := [.edit (.insertChar '\n'), .edit (.insertChar '漢')]
    let pane := (ofText "ab".toList).performAll actions
    pane.area.selection = none ∧ pane.area.lines.Fits ∧ pane.RemovesRange 1 3 ∧
      pane.RemovesRange 1 (Text.max64 - 1) ∧
      pane.remove 1 Text.max64 = .refused pane .overflow := by
  intro actions pane
  have hselection : pane.area.selection = none := by decide
  have hfits : pane.area.lines.Fits := by decide
  have hiff := removesRange_iff_le_max64 "ab".toList actions hselection hfits
  exact ⟨hselection, hfits, (hiff 1 3).1.2 (by decide), (hiff 1 (Text.max64 - 1)).1.2 (by decide),
    (hiff 1 Text.max64).2 (by decide)⟩

/-- Three characters and a range that ends far behind them: it is not refused as
such. -/
theorem remove_overflows_behind_text :
    let pane := ofText "abc".toList
    pane.area.length < 1 + Text.max64 ∧
      (pane.remove 1 Text.max64).fault? = some .overflow ∧ ¬ pane.RemovesRange 1 Text.max64 := by
  intro pane
  have hbehind : pane.area.length < 1 + Text.max64 := by decide
  have hstopped : (pane.remove 1 Text.max64).fault? = some .overflow := by decide
  refine ⟨hbehind, hstopped, fun hexact => ?_⟩
  rw [hexact.refused hbehind] at hstopped
  cases hstopped

end Pane

end ClassExpr
