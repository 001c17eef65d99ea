/-
The word at the caret is a piece of the text: what stands before it is empty
or ends in a delimiter, and there is none inside it.  It is the only such piece
that ends at the caret.
-/
import Mathlib.Data.List.DropRight
import ClassExpr.Proofs.DocumentEffect

namespace ClassExpr

namespace Text

variable {p : Char → Bool}

/-- What is left when the characters of a class are taken off the end of a text
is empty or ends in another character. -/
theorem getLast?_rdropWhile (p : Char → Bool) (text : Text) :
    ∀ c ∈ (text.rdropWhile p).getLast?, p c = false := by
  intro c hc
  have hne : text.rdropWhile p ≠ [] := by
    rintro hnil
    simp [hnil] at hc
  have hlast := List.rdropWhile_last_not p text hne
  rw [List.getLast?_eq_getLast_of_ne_nil hne, Option.mem_some_iff] at hc
  rwa [hc, Bool.not_eq_true] at hlast

theorem rdropWhile_append {front tail : Text} (hfront : ∀ c ∈ front.getLast?, p c = false)
    (htail : ∀ c ∈ tail, p c = true) : (front ++ tail).rdropWhile p = front := by
  have hself : front.rdropWhile p = front := by
    rw [List.rdropWhile_eq_self_iff]
    intro hne
    simp [hfront _ (List.getLast?_eq_getLast_of_ne_nil hne)]
  rw [List.rdropWhile, List.reverse_append,
    List.dropWhile_append_of_pos fun c hc => htail c (List.mem_reverse.1 hc)]
  exact hself

/-- The characters of a class at the end of a text are those behind its last
other character. -/
theorem rtakeWhile_append {front tail : Text} (hfront : ∀ c ∈ front.getLast?, p c = false)
    (htail : ∀ c ∈ tail, p c = true) : (front ++ tail).rtakeWhile p = tail := by
  have hwhole : (front ++ tail).rdropWhile p ++ (front ++ tail).rtakeWhile p = front ++ tail :=
    List.rdropWhile_append_rtakeWhile
  rw [rdropWhile_append hfront htail] at hwhole
  exact List.append_cancel_left hwhole

end Text

namespace Delimiters

variable {delimiters : Delimiters}

/-- The part before a word: it is empty or ends in a delimiter. -/
def Ends (delimiters : Delimiters) (front : Text) : Prop :=
  ∀ c ∈ front.getLast?, delimiters.contains c = true

/-- A word holds no delimiter. -/
def Avoids (delimiters : Delimiters) (word : Text) : Prop :=
  ∀ c ∈ word, delimiters.contains c = false

instance (word : Text) : Decidable (delimiters.Avoids word) :=
  decidable_of_iff (word.all fun c => !delimiters.contains c) (by simp [Avoids])

theorem lastWord_append {front word : Text} (hfront : delimiters.Ends front)
    (hword : delimiters.Avoids word) : delimiters.lastWord (front ++ word) = word := by
  apply Text.rtakeWhile_append
  · intro c hc
    rw [hfront c hc, Bool.not_true]
  · intro c hc
    rw [hword c hc, Bool.not_false]

theorem exists_append_lastWord (delimiters : Delimiters) (text : Text) :
    ∃ front, text = front ++ delimiters.lastWord text ∧ delimiters.Ends front ∧
      delimiters.Avoids (delimiters.lastWord text) := by
  let inWord := fun c => !delimiters.contains c
  refine ⟨text.rdropWhile inWord, ?_, ?_, ?_⟩
  · exact List.rdropWhile_append_rtakeWhile.symm
  · intro c hc
    simpa [inWord] using Text.getLast?_rdropWhile inWord text c hc
  · intro c hc
    simpa [inWord] using (List.mem_rtakeWhile_imp hc : inWord c = true)

theorem locate_eq_of_append {text front word : Text} {caret : Nat} (hpos : 0 < caret)
    (hcaret : caret ≤ text.length) (htake : text.take caret = front ++ word)
    (hfront : delimiters.Ends front) (hword : delimiters.Avoids word) :
    delimiters.locate text caret = .ok (some ⟨front.length, caret, word⟩) := by
  have hlength : (front ++ word).length = caret := by
    rw [← htake, List.length_take_of_le hcaret]
  unfold locate
  simp only [htake, lastWord_append hfront hword, hlength, if_neg hpos.ne',
    if_neg (Nat.lt_irrefl caret)]
  rw [← hlength, List.length_append, Nat.add_sub_cancel]

theorem exists_append_of_locate {text : Text} {caret : Nat} {word : PartialWord}
    (hlocate : delimiters.locate text caret = .ok (some word)) :
    ∃ front, text.take caret = front ++ word.text ∧ word.start = front.length ∧
      delimiters.Ends front ∧ delimiters.Avoids word.text := by
  obtain ⟨front, happend, hfront, hword⟩ := delimiters.exists_append_lastWord (text.take caret)
  obtain ⟨_, _, hlength⟩ := locate_eq_some hlocate
  have hpos : 0 < caret := by
    refine Nat.pos_of_ne_zero fun hzero => ?_
    simp [locate, hzero] at hlocate
  have hwhole := locate_eq_of_append hpos hlength happend hfront hword
  obtain rfl := Option.some.inj (Except.ok.inj (hlocate.symm.trans hwhole))
  exact ⟨front, happend, rfl, hfront, hword⟩

theorem take_start_of_locate {text front : Text} {caret : Nat} {word : PartialWord}
    (hlocate : delimiters.locate text caret = .ok (some word))
    (happend : text.take caret = front ++ word.text) (hfront : word.start = front.length) :
    text.take word.start = front := by
  obtain ⟨_, hstart, _⟩ := locate_eq_some hlocate
  rw [← Nat.min_eq_left hstart, ← List.take_take, happend, List.take_left' hfront.symm]

/-- The text is what is before the word, the word and what is behind the
caret. -/
theorem eq_append_of_locate {text : Text} {caret : Nat} {word : PartialWord}
    (hlocate : delimiters.locate text caret = .ok (some word)) :
    text = text.take word.start ++ word.text ++ text.drop word.caret := by
  obtain ⟨front, happend, hfront, _⟩ := exists_append_of_locate hlocate
  obtain ⟨hcaret, _, _⟩ := locate_eq_some hlocate
  rw [take_start_of_locate hlocate happend hfront, ← happend, hcaret, List.take_append_drop]

theorem length_text_of_locate {text : Text} {caret : Nat} {word : PartialWord}
    (hlocate : delimiters.locate text caret = .ok (some word)) :
    word.text.length = word.length := by
  obtain ⟨front, happend, hstart, _⟩ := exists_append_of_locate hlocate
  obtain ⟨hcaret, _, hlength⟩ := locate_eq_some hlocate
  have hsum := congrArg List.length happend
  rw [List.length_take_of_le hlength, List.length_append] at hsum
  unfold PartialWord.length
  omega

/-- What is before a word does not end in it. -/
theorem Avoids.eq_nil_of_suffix {front word : Text} (hword : delimiters.Avoids word)
    (hfront : delimiters.Ends front) (hsuffix : word <:+ front) : word = [] := by
  by_contra hne
  obtain ⟨init, rfl⟩ := hsuffix
  have hlast : (init ++ word).getLast? = some (word.getLast hne) := by
    rw [List.getLast?_append, List.getLast?_eq_some_getLast hne, Option.some_or]
  have hdelimiter := hfront (word.getLast hne) hlast
  rw [hword _ (List.getLast_mem hne)] at hdelimiter
  cases hdelimiter

/-- A caret inside a word is on the first part of it. -/
theorem locate_inside {text : Text} {caret inside : Nat} {word : PartialWord}
    (hlocate : delimiters.locate text caret = .ok (some word)) (hpos : 0 < inside)
    (hstart : word.start ≤ inside) (hcaret : inside ≤ word.caret) :
    delimiters.locate text inside =
      .ok (some ⟨word.start, inside, word.text.take (inside - word.start)⟩) := by
  obtain ⟨rfl, _, hlength⟩ := locate_eq_some hlocate
  obtain ⟨front, happend, hbegin, hfront, hword⟩ := exists_append_of_locate hlocate
  rw [hbegin] at hstart ⊢
  have htake : text.take inside = front ++ word.text.take (inside - front.length) := by
    rw [← Nat.min_eq_left hcaret, ← List.take_take, happend, List.take_append,
      List.take_of_length_le hstart, Nat.min_eq_left hcaret]
  exact locate_eq_of_append hpos (hcaret.trans hlength) htake hfront
    fun c hc => hword c (List.mem_of_mem_take hc)

/-- A word ends at a caret: it is the piece of the text from its start up to the
caret, holds no delimiter and begins at the start of the text or right behind a
delimiter. -/
structure WordAt (delimiters : Delimiters) (text : Text) (caret : Nat)
    (word : PartialWord) : Prop where
  caret_eq : word.caret = caret
  start_le : word.start ≤ caret
  text_eq : word.text = (text.take caret).drop word.start
  length_eq : word.length = word.text.length
  avoids : delimiters.Avoids word.text
  maximal : word.start = 0 ∨ ∃ c, text[word.start - 1]? = some c ∧ delimiters.contains c = true

theorem ends_take_iff (text : Text) {start : Nat} (hstart : start ≤ text.length) :
    delimiters.Ends (text.take start) ↔
      start = 0 ∨ ∃ c, text[start - 1]? = some c ∧ delimiters.contains c = true := by
  cases start with
  | zero => simp [Ends]
  | succ last =>
      have hlast : (text.take (last + 1)).getLast? = some text[last] := by
        rw [List.take_succ_eq_append_getElem hstart, List.getLast?_concat]
      simp [Ends, hlast, List.getElem?_eq_getElem hstart]

theorem WordAt.locate_eq {text : Text} {caret : Nat} {word : PartialWord}
    (hword : delimiters.WordAt text caret word) (hpos : 0 < caret)
    (hcaret : caret ≤ text.length) : delimiters.locate text caret = .ok (some word) := by
  have hstart : word.start ≤ text.length := hword.start_le.trans hcaret
  have hfront : delimiters.Ends (text.take word.start) :=
    (ends_take_iff text hstart).2 hword.maximal
  have htake : text.take caret = text.take word.start ++ word.text := by
    have hinner : (text.take caret).take word.start = text.take word.start := by
      rw [List.take_take, Nat.min_eq_left hword.start_le]
    rw [hword.text_eq, ← hinner, List.take_append_drop]
  rw [locate_eq_of_append hpos hcaret htake hfront hword.avoids,
    List.length_take_of_le hstart, ← hword.caret_eq]

theorem wordAt_of_locate {text : Text} {caret : Nat} {word : PartialWord}
    (hlocate : delimiters.locate text caret = .ok (some word)) :
    delimiters.WordAt text caret word := by
  obtain ⟨hcaret, hstart, hlength⟩ := locate_eq_some hlocate
  obtain ⟨front, happend, hfront, hends, havoids⟩ := exists_append_of_locate hlocate
  have htake := take_start_of_locate hlocate happend hfront
  exact
    { caret_eq := hcaret
      start_le := hstart
      text_eq := by rw [happend, hfront, List.drop_left]
      length_eq := (length_text_of_locate hlocate).symm
      avoids := havoids
      maximal := (ends_take_iff text (hstart.trans hlength)).1 (htake ▸ hends) }

theorem locate_of_lt (delimiters : Delimiters) {text : Text} {caret : Nat}
    (hcaret : text.length < caret) :
    delimiters.locate text caret = .error (.outOfRange caret 0) := by
  have hshort : (text.take caret).length < caret :=
    Nat.lt_of_le_of_lt (List.length_take_le' caret text) hcaret
  rw [locate, if_neg (Nat.ne_of_gt (Nat.zero_lt_of_lt hcaret))]
  exact if_pos hshort

theorem locate_of_le (delimiters : Delimiters) {text : Text} {caret : Nat} (hpos : 0 < caret)
    (hcaret : caret ≤ text.length) :
    let word := delimiters.lastWord (text.take caret)
    delimiters.locate text caret = .ok (some ⟨caret - word.length, caret, word⟩) := by
  unfold locate
  simp only [List.length_take_of_le hcaret, if_neg hpos.ne', if_neg (Nat.lt_irrefl caret)]

theorem exists_locate (delimiters : Delimiters) {text : Text} {caret : Nat} (hpos : 0 < caret)
    (hcaret : caret ≤ text.length) : ∃ word, delimiters.locate text caret = .ok (some word) :=
  ⟨_, delimiters.locate_of_le hpos hcaret⟩

/-- At the start of a text there is no word, a caret behind the text is out of
range, and every other caret has exactly one word that ends at it, which is the
one that is found. -/
theorem locate_unique_wordAt (delimiters : Delimiters) (text : Text) (caret : Nat) :
    (delimiters.locate text caret = .ok none ↔ caret = 0) ∧
      (∀ fault, delimiters.locate text caret = .error fault ↔
        fault = .outOfRange caret 0 ∧ text.length < caret) ∧
      (0 < caret → caret ≤ text.length →
        ∃ word, delimiters.locate text caret = .ok (some word) ∧
          ∀ other, delimiters.WordAt text caret other ↔ other = word) := by
  -- The three cases exclude each other, so each answer tells in which one the caret is.
  rcases Nat.eq_zero_or_pos caret with rfl | hpos
  · have hlocate : delimiters.locate text 0 = .ok none := rfl
    simp [hlocate]
  · by_cases hcaret : caret ≤ text.length
    · obtain ⟨word, hlocate⟩ := delimiters.exists_locate hpos hcaret
      refine ⟨by simp [hlocate, hpos.ne'], by simp [hlocate, hcaret], fun _ _ => ?_⟩
      refine ⟨word, hlocate, fun other => ?_⟩
      constructor
      · intro hother
        have hsame := (hother.locate_eq hpos hcaret).symm.trans hlocate
        exact Option.some.inj (Except.ok.inj hsame)
      · rintro rfl
        exact wordAt_of_locate hlocate
    · have hlocate := delimiters.locate_of_lt (Nat.lt_of_not_le hcaret)
      refine ⟨by simp [hlocate, hpos.ne'], ?_, fun _ hinside => absurd hinside hcaret⟩
      intro fault
      rw [hlocate, Except.error.injEq, eq_comm, and_iff_left (Nat.lt_of_not_le hcaret)]

/-- A tab that was added to the delimiters ends a word of two-byte characters,
and behind a bracket the word is empty. -/
theorem locate_unique_wordAt_tab :
    let delimiters := Delimiters.standard.insertMany ['\t']
    let text := "Ä\tÜb (".toList
    delimiters.locate text 4 = .ok (some ⟨2, 4, "Üb".toList⟩) ∧
      (∀ other, delimiters.WordAt text 4 other ↔ other = ⟨2, 4, "Üb".toList⟩) ∧
      ∀ other, delimiters.WordAt text 6 other ↔ other = ⟨6, 6, []⟩ := by
  intro delimiters text
  have hword : delimiters.locate text 4 = .ok (some ⟨2, 4, "Üb".toList⟩) := by decide
  have hempty : delimiters.locate text 6 = .ok (some ⟨6, 6, []⟩) := by decide
  obtain ⟨_, hfound, honly⟩ := (locate_unique_wordAt delimiters text 4).2.2 (by decide) (by decide)
  obtain ⟨_, hbehind, hnone⟩ := (locate_unique_wordAt delimiters text 6).2.2 (by decide) (by decide)
  obtain rfl := Option.some.inj (Except.ok.inj (hword.symm.trans hfound))
  obtain rfl := Option.some.inj (Except.ok.inj (hempty.symm.trans hbehind))
  exact ⟨hword, honly, hnone⟩

end Delimiters

/-- A text with another word in the place of a partial word. -/
def PartialWord.replaceIn (found : PartialWord) (text word : Text) : Text :=
  text.take found.start ++ word ++ text.drop found.caret

/-- Another word in the place of a partial word makes another text. -/
theorem PartialWord.replaceIn_eq_self_iff {delimiters : Delimiters} {text : Text} {caret : Nat}
    {found : PartialWord} (hlocate : delimiters.locate text caret = .ok (some found))
    (word : Text) : found.replaceIn text word = text ↔ word = found.text := by
  have htext := Delimiters.eq_append_of_locate hlocate
  constructor
  · intro hsame
    exact List.append_cancel_left (List.append_cancel_right (hsame.trans htext))
  · rintro rfl
    exact htext.symm

namespace Completer

/-- An insertion at a word replaces it and succeeds. -/
theorem insertWord_of_partialWord {completer : Completer Buffer} {found : PartialWord}
    (hfound : completer.partialWord = .ok (some found)) (word : Text) :
    completer.insertWord word =
      ({ completer with
          document :=
            { completer.document with
              text := found.replaceIn completer.document.text word
              caret := found.start + word.length } }, none) := by
  obtain ⟨hcaret, hstart, hinside⟩ := Delimiters.locate_eq_some hfound
  unfold insertWord
  rw [hfound]
  dsimp only
  rw [replaceWord_eq completer.document (hcaret ▸ hstart) (hcaret ▸ hinside)]
  rfl

end Completer

end ClassExpr
