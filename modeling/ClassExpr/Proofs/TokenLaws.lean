/-
What the tokens of a text are and what they keep of it.

Every token is a word, a mark or a quotation, and only the last one may be a
quotation that is never closed.  Between them the tokens keep every character
except the gaps outside quotes, in their order.  So the tokens written with
single blanks between them are read back as they are.
-/
import ClassExpr.Proofs.Tokenisation

namespace ClassExpr

namespace Token

/-- Whether a character is a gap outside quotes, behind an even number of
them. -/
def isOuterGap (before : Text) (c : Char) : Bool :=
  isGap c && before.count '"' % 2 == 0

/-- The characters of a text that are no gaps outside quotes. -/
def withoutGaps (text : Text) : Text :=
  (text.zipIdx.filter fun numbered => !isOuterGap (text.take numbered.2) numbered.1).map Prod.fst

theorem withoutGaps_concat (text : Text) (c : Char) :
    withoutGaps (text ++ [c]) = withoutGaps text ++ if isOuterGap text c then [] else [c] := by
  have hbefore :
      (text.zipIdx.filter fun numbered => !isOuterGap ((text ++ [c]).take numbered.2) numbered.1) =
        text.zipIdx.filter fun numbered => !isOuterGap (text.take numbered.2) numbered.1 := by
    apply List.filter_congr
    intro numbered hnumbered
    have hinside : numbered.2 ≤ text.length := Nat.le_of_lt (List.mem_zipIdx' hnumbered).1
    rw [List.take_append_of_le_length hinside]
  have hlast : (text ++ [c]).take text.length = text := List.take_left
  rw [withoutGaps, withoutGaps, List.zipIdx_append, List.filter_append, List.map_append, hbefore]
  cases hgap : isOuterGap text c <;> simp [hlast, hgap]

theorem isGap_of_isPunctuation {c : Char} (hc : isPunctuation c = true) : isGap c = false := by
  simp only [isPunctuation, Bool.or_eq_true, beq_iff_eq] at hc
  rcases hc with (((((rfl | rfl) | rfl) | rfl) | rfl) | rfl) | rfl <;> decide

theorem flatten_flush (pending : Text) (tokens : List Token) :
    (flush pending tokens).flatten = pending.reverse ++ tokens.flatten := by
  cases pending with
  | nil => rfl
  | cons c rest => rfl

namespace Scanned

/-- The characters that a scan has kept. -/
def kept (scanned : Scanned) : Text :=
  scanned.tokens.flatten ++ scanned.pending.reverse

/-- One more character is kept unless it is a gap outside quotes. -/
theorem Advance.kept {scanned after : Scanned} {c : Char} (hadvance : scanned.Advance c after) :
    after.kept = scanned.kept ++ if isGap c && !scanned.quoted then [] else [c] := by
  unfold Scanned.kept
  cases hadvance with
  | closed hquoted hquote => simp [hquoted]
  | inside hquoted hquote => simp [hquoted]
  | opened hquoted hquote =>
      have hgap : isGap c = false := by rw [hquote]; decide
      simp [hgap, flatten_flush]
  | mark hquoted hpunctuation =>
      have hgap := isGap_of_isPunctuation hpunctuation
      simp [hgap, flatten_flush]
  | gap hquoted hgap => simp [hquoted, hgap, flatten_flush]
  | word hquoted hword =>
      have hgap := (isWordChar_iff.1 hword).2.2
      simp [hgap]

theorem kept_ofText (text : Text) : (ofText text).kept = withoutGaps text := by
  induction text using List.reverseRecOn with
  | nil => rfl
  | append_singleton text c ih =>
      have houtside : (!(ofText text).quoted) = (text.count '"' % 2 == 0) := by
        rw [Bool.eq_iff_iff, Bool.not_eq_true', ← Bool.not_eq_true, quoted_ofText_iff, beq_iff_eq]
        omega
      rw [ofText_concat, ((ofText text).next_advance c).kept, ih, houtside, withoutGaps_concat,
        isOuterGap]

/-- At the end of a text what is pending is a word or an open quotation. -/
theorem Sound.legible {scanned : Scanned} (hsound : scanned.Sound) :
    Legible (scanned.tokens ++ Token.flush scanned.pending []) := by
  apply legible_append hsound.tokens
  cases hquoted : scanned.quoted with
  | true =>
      obtain ⟨body, hbody, hpending⟩ := hsound.inside hquoted
      have hne : scanned.pending ≠ [] := by
        intro hnil
        simp [hnil] at hpending
      have hflush : Token.flush scanned.pending [] = [scanned.pending.reverse] := by
        simp [Token.flush, hne]
      rw [hflush, hpending]
      exact .unclosed ⟨body, hbody, rfl⟩
  | false =>
      apply legible_of_forall
      intro token htoken
      exact Or.inl (hsound.flush hquoted token htoken)

end Scanned

theorem legible_ofText (text : Text) : Legible (ofText text) := by
  rw [ofText_eq_flush]
  exact (Scanned.sound_ofText text).legible

/-- The tokens keep every character but the gaps outside quotes. -/
theorem flatten_ofText (text : Text) : (ofText text).flatten = withoutGaps text := by
  rw [ofText_eq_flush, List.flatten_append, flatten_flush, List.flatten_nil, List.append_nil,
    ← Scanned.kept_ofText, Scanned.kept]

/-- A blank before each token is one blank more than between them. -/
theorem spaced_cons_eq (token : Token) (rest : List Token) :
    spaced (token :: rest) = ' ' :: List.intercalate [' '] (token :: rest) := by
  induction rest generalizing token with
  | nil => simp [spaced]
  | cons other rest ih =>
      have hspaced : spaced (token :: other :: rest) = ' ' :: (token ++ spaced (other :: rest)) :=
        rfl
      rw [hspaced, ih, List.intercalate_cons_cons, List.append_assoc, List.singleton_append]

theorem Legible.ofText_intercalate {tokens : List Token} (hlegible : Legible tokens) :
    ofText (List.intercalate [' '] tokens) = tokens := by
  have hspaced := hlegible.ofText_spaced
  cases tokens with
  | nil => exact hspaced
  | cons token rest =>
      rw [spaced_cons_eq, ofText_space] at hspaced
      exact hspaced

/-- The tokens of a text are not empty.  Each is a word, a mark or a quotation, of
which only the last may be open.  Together they are the text without the gaps
outside quotes, and with single blanks between them they are read back, as all
such lists of tokens are.  Behind closed quotes a blank parts the tokens. -/
theorem ofText_keeps_text :
    (∀ text, Legible (ofText text) ∧ (∀ token ∈ ofText text, token ≠ []) ∧
        (ofText text).flatten = withoutGaps text ∧
        ofText (List.intercalate [' '] (ofText text)) = ofText text) ∧
      (∀ tokens, Legible tokens → ofText (List.intercalate [' '] tokens) = tokens) ∧
      ∀ before, before.count '"' % 2 = 0 →
        ∀ rest, ofText (before ++ ' ' :: rest) = ofText before ++ ofText rest := by
  refine ⟨fun text => ?_, fun tokens => Legible.ofText_intercalate,
    fun before => ofText_append_space⟩
  have hlegible := legible_ofText text
  exact ⟨hlegible, hlegible.ne_nil, flatten_ofText text, hlegible.ofText_intercalate⟩

/-- A gap inside quotes is kept, quotes part words without a blank, and a quote
may be left open at the end. -/
theorem ofText_keeps_text_quoted :
    let before := "or\"a ^b\"(c)^^d".toList
    let rest := "e \"f g".toList
    let tokens := ["or".toList, "\"a ^b\"".toList, ['('], "\"f g".toList]
    before.count '"' % 2 = 0 ∧ Legible tokens ∧
      (ofText before).flatten = "or\"a ^b\"(c)d".toList ∧
      ofText "or \"a ^b\" ( \"f g".toList = tokens ∧
      ofText (before ++ ' ' :: rest) = ofText before ++ ["e".toList, "\"f g".toList] := by
  intro before rest tokens
  have hquotes : before.count '"' % 2 = 0 := by decide
  have hlegible : Legible tokens := by
    apply Legible.cons (Or.inl (Or.inl (by decide)))
    apply Legible.cons (Or.inr ⟨"a ^b".toList, by decide, rfl⟩)
    apply Legible.cons (Or.inl (Or.inr ⟨'(', rfl, by decide⟩))
    exact .unclosed ⟨"f g".toList, by decide, rfl⟩
  have hrest : ofText rest = ["e".toList, "\"f g".toList] := by decide
  obtain ⟨hlaws, hback, hapart⟩ := ofText_keeps_text
  obtain ⟨_, _, hkept, _⟩ := hlaws before
  exact ⟨hquotes, hlegible, hkept.trans (by decide), hback tokens hlegible,
    hrest ▸ hapart before hquotes rest⟩

end Token

end ClassExpr
