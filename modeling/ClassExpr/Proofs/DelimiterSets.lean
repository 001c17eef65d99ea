/-
Delimiters are a set, and more of them only shorten words.

Adding a character that is there changes nothing, so the list of delimiters keeps
its beginning and never has a character twice.  A word is found by membership
alone.  With more delimiters the scan back from the caret stops no later, so the
word that it finds is the end of the word it found before.
-/
import Mathlib.Data.List.Nodup
import Mathlib.Data.List.TakeWhile
import ClassExpr.Completion.Settings
import ClassExpr.Proofs.WordAtCaret

namespace ClassExpr

/-- How the answer about the word at a caret may change when words get shorter: a
fault and the lack of a word stay, and a word loses characters at its start. -/
inductive Shortened :
    Except Fault (Option PartialWord) → Except Fault (Option PartialWord) → Prop
  | fault (fault : Fault) : Shortened (.error fault) (.error fault)
  | nothing : Shortened (.ok none) (.ok none)
  | word {former shorter : PartialWord} (caret : shorter.caret = former.caret)
      (start : former.start ≤ shorter.start) (text : shorter.text <:+ former.text) :
      Shortened (.ok (some former)) (.ok (some shorter))

namespace Delimiters

theorem contains_iff {delimiters : Delimiters} {c : Char} :
    delimiters.contains c = true ↔ c ∈ delimiters.chars :=
  List.contains_iff_mem

theorem insert_of_mem {delimiters : Delimiters} {c : Char} (hmem : c ∈ delimiters.chars) :
    delimiters.insert c = delimiters :=
  if_pos (contains_iff.2 hmem)

theorem insert_of_not_mem {delimiters : Delimiters} {c : Char} (hmem : c ∉ delimiters.chars) :
    delimiters.insert c = ⟨delimiters.chars ++ [c]⟩ :=
  if_neg (mt contains_iff.1 hmem)

theorem prefix_insert (delimiters : Delimiters) (c : Char) :
    delimiters.chars <+: (delimiters.insert c).chars := by
  by_cases hmem : c ∈ delimiters.chars
  · exact (congrArg chars (insert_of_mem hmem)).symm ▸ List.prefix_rfl
  · rw [insert_of_not_mem hmem]
    exact List.prefix_append _ _

theorem nodup_insert {delimiters : Delimiters} (hnodup : delimiters.chars.Nodup) (c : Char) :
    (delimiters.insert c).chars.Nodup := by
  by_cases hmem : c ∈ delimiters.chars
  · rwa [insert_of_mem hmem]
  · rw [insert_of_not_mem hmem, ← List.concat_eq_append]
    exact hnodup.concat hmem

theorem prefix_insertMany (delimiters : Delimiters) (extra : List Char) :
    delimiters.chars <+: (delimiters.insertMany extra).chars := by
  induction extra generalizing delimiters with
  | nil => exact List.prefix_rfl
  | cons c rest ih => exact (delimiters.prefix_insert c).trans (ih _)

theorem nodup_insertMany {delimiters : Delimiters} (hnodup : delimiters.chars.Nodup)
    (extra : List Char) : (delimiters.insertMany extra).chars.Nodup := by
  induction extra generalizing delimiters with
  | nil => exact hnodup
  | cons c rest ih => exact ih (nodup_insert hnodup c)

theorem insertMany_of_subset {delimiters : Delimiters} {again : List Char}
    (hagain : again ⊆ delimiters.chars) : delimiters.insertMany again = delimiters := by
  induction again with
  | nil => rfl
  | cons c rest ih =>
      obtain ⟨hc, hrest⟩ := List.cons_subset.1 hagain
      calc delimiters.insertMany (c :: rest)
          = (delimiters.insert c).insertMany rest := rfl
        _ = delimiters.insertMany rest := by rw [insert_of_mem hc]
        _ = delimiters := ih hrest

theorem contains_insertMany_iff {delimiters : Delimiters} {extra : List Char} {c : Char} :
    (delimiters.insertMany extra).contains c = true ↔ c ∈ delimiters.chars ∨ c ∈ extra := by
  rw [contains_insertMany, Bool.or_eq_true, List.contains_iff_mem, contains_iff, or_comm]

/-- A word is found by membership alone. -/
theorem locate_congr {left right : Delimiters}
    (hsame : ∀ c, left.contains c = true ↔ right.contains c = true) (text : Text) (caret : Nat) :
    left.locate text caret = right.locate text caret := by
  have hcontains : left.contains = right.contains := funext fun c => Bool.eq_iff_iff.2 (hsame c)
  unfold locate lastWord
  rw [hcontains]

section More

variable {few many : Delimiters} (hmore : ∀ c, few.contains c = true → many.contains c = true)

include hmore

/-- With more delimiters the last word of a text is found in the last word that
fewer leave. -/
theorem lastWord_lastWord (text : Text) :
    many.lastWord (few.lastWord text) = many.lastWord text := by
  unfold lastWord
  rw [List.reverse_reverse, List.takeWhile_takeWhile]
  have hstops : (fun c => decide ((!many.contains c) = true ∧ (!few.contains c) = true)) =
      fun c => !many.contains c := by
    funext c
    cases hfew : few.contains c with
    | false => simp
    | true => simp [hmore c hfew]
  rw [hstops]

theorem lastWord_suffix_lastWord (text : Text) : many.lastWord text <:+ few.lastWord text := by
  rw [← lastWord_lastWord hmore text]
  exact List.rtakeWhile_suffix _ _

theorem locate_shortened (text : Text) (caret : Nat) :
    Shortened (few.locate text caret) (many.locate text caret) := by
  rcases Nat.eq_zero_or_pos caret with rfl | hpos
  · exact .nothing
  · by_cases hcaret : caret ≤ text.length
    · -- Both words end at the caret, so the shorter one starts later.
      have hsuffix := lastWord_suffix_lastWord hmore (text.take caret)
      rw [few.locate_of_le hpos hcaret, many.locate_of_le hpos hcaret]
      exact .word rfl (Nat.sub_le_sub_left hsuffix.length_le caret) hsuffix
    · have hbehind := Nat.lt_of_not_le hcaret
      rw [few.locate_of_lt hbehind, many.locate_of_lt hbehind]
      exact .fault _

end More

end Delimiters

/-- The delimiters that settings ask for begin with the standard ones, hold each
character once and none but the standard and the extra ones, and stay the same
when some of them are added again.  Neither the order nor the repetition of the
extra delimiters matters for a word, and more of them only shorten it. -/
theorem Settings.delimiters_shorten (settings : Settings) :
    Delimiters.standard.chars <+: settings.delimiters.chars ∧
      settings.delimiters.chars.Nodup ∧
      (∀ c, settings.delimiters.contains c = true ↔
        c ∈ Delimiters.standard.chars ∨ c ∈ settings.extraDelimiters) ∧
      (∀ again, again ⊆ settings.delimiters.chars →
        settings.delimiters.insertMany again = settings.delimiters) ∧
      ∀ (other : Settings) (text : Text) (caret : Nat),
        ((∀ c, c ∈ other.extraDelimiters ↔ c ∈ settings.extraDelimiters) →
          other.delimiters.locate text caret = settings.delimiters.locate text caret) ∧
        (settings.extraDelimiters ⊆ other.extraDelimiters →
          Shortened (settings.delimiters.locate text caret)
            (other.delimiters.locate text caret)) := by
  refine ⟨Delimiters.prefix_insertMany _ _, Delimiters.nodup_insertMany (by decide) _,
    fun _ => Delimiters.contains_insertMany_iff, fun _ => Delimiters.insertMany_of_subset, ?_⟩
  intro other text caret
  constructor
  · intro hsame
    apply Delimiters.locate_congr
    intro c
    rw [delimiters, delimiters, Delimiters.contains_insertMany_iff,
      Delimiters.contains_insertMany_iff, hsame]
  · intro hsubset
    apply Delimiters.locate_shortened
    intro c hc
    rw [delimiters, Delimiters.contains_insertMany_iff] at hc ⊢
    exact hc.imp_right fun hextra => hsubset hextra

/-- A standard delimiter and a repeated one are not added, the order of the
others does not matter, and one more of them cuts a word short. -/
theorem Settings.delimiters_shorten_tab :
    let settings : Settings := { extraDelimiters := ['\t', ' ', '.', '\t'] }
    let turned : Settings := { extraDelimiters := ['.', '\t', ' '] }
    let more : Settings := { extraDelimiters := ['.', '-', '\t', ' '] }
    let text := "Äa\tÜb-ö".toList
    settings.delimiters.chars = Delimiters.standard.chars ++ ['\t', '.'] ∧
      settings.delimiters.insertMany ['.', '^'] = settings.delimiters ∧
      turned.delimiters.locate text 7 = settings.delimiters.locate text 7 ∧
      settings.delimiters.locate text 7 = .ok (some ⟨3, 7, "Üb-ö".toList⟩) ∧
      more.delimiters.locate text 7 = .ok (some ⟨6, 7, "ö".toList⟩) ∧
      Shortened (settings.delimiters.locate text 7) (more.delimiters.locate text 7) := by
  intro settings turned more text
  obtain ⟨_, _, _, hagain, hwords⟩ := delimiters_shorten settings
  have hchars : settings.delimiters.chars = Delimiters.standard.chars ++ ['\t', '.'] := by decide
  have hsame : ∀ c, c ∈ turned.extraDelimiters ↔ c ∈ settings.extraDelimiters := by
    intro c
    simp only [settings, turned, List.mem_cons, List.not_mem_nil, or_false]
    tauto
  refine ⟨hchars, hagain _ ?_, (hwords turned text 7).1 hsame, by decide, by decide,
    (hwords more text 7).2 ?_⟩
  · simp [hchars, Delimiters.standard]
  · simp [settings, more]

end ClassExpr
