/-
Tokens that are read back from their text, and tokens of a text that is read in
two pieces.

Words, marks and quotations are read back when blanks stand between them, and
only the last quotation may be open.

A scan stands between two characters with some tokens complete, inside or
outside quotes, and some characters pending.  `Scanned` says where it stands,
so the tokens of a text follow from the standing after its first piece and
the characters of the second.
-/
import Mathlib.Data.List.Induction
import ClassExpr.Completion.Word
import ClassExpr.Grammar.Token

namespace ClassExpr

namespace Token

/-- The characters that join to words. -/
def isWordChar (c : Char) : Bool :=
  !(isPunctuation c || isGap c || c == '"')

/-- A token that stands for itself between blanks. -/
def IsWord (token : Token) : Prop :=
  token ≠ [] ∧ ∀ c ∈ token, isWordChar c = true

instance (token : Token) : Decidable token.IsWord :=
  decidable_of_iff (token ≠ [] ∧ token.all isWordChar = true) (by simp [IsWord])

theorem isWordChar_iff {c : Char} :
    isWordChar c = true ↔ c ≠ '"' ∧ isPunctuation c = false ∧ isGap c = false := by
  simp only [isWordChar, Bool.not_eq_true', Bool.or_eq_false_iff, beq_eq_false_iff_ne]
  constructor
  · rintro ⟨⟨hpunctuation, hgap⟩, hquote⟩
    exact ⟨hquote, hpunctuation, hgap⟩
  · rintro ⟨hquote, hpunctuation, hgap⟩
    exact ⟨⟨hpunctuation, hgap⟩, hquote⟩

/-- A rest of a text that cannot prolong the word before it. -/
def Detached (rest : Text) : Prop :=
  rest = [] ∨ rest.head? = some ' '

theorem scan_word {word : Text} (hword : ∀ c ∈ word, isWordChar c = true) (pending rest : Text) :
    scan false pending (word ++ rest) = scan false (word.reverse ++ pending) rest := by
  induction word generalizing pending with
  | nil => rfl
  | cons c word ih =>
      obtain ⟨hquote, hpunctuation, hgap⟩ := isWordChar_iff.1 (hword c List.mem_cons_self)
      rw [List.cons_append, scan, if_neg (by simp), if_neg hquote, if_neg (by simp [hpunctuation]),
        if_neg (by simp [hgap]), ih fun other hother => hword other (List.mem_cons_of_mem c hother)]
      simp

theorem scan_quoted {word : Text} (hword : '"' ∉ word) (pending rest : Text) :
    scan true pending (word ++ rest) = scan true (word.reverse ++ pending) rest := by
  induction word generalizing pending with
  | nil => rfl
  | cons c word ih =>
      obtain ⟨hquote, hword⟩ := not_or.1 (mt List.mem_cons.2 hword)
      rw [List.cons_append, scan, if_pos rfl, if_neg (Ne.symm hquote), ih hword]
      simp

theorem scan_punctuation {c : Char} (hpunctuation : isPunctuation c = true)
    (pending rest : Text) :
    scan false pending (c :: rest) = flush pending ([c] :: ofText rest) := by
  have hquote : c ≠ '"' := by
    rintro rfl
    exact absurd hpunctuation (by decide)
  rw [scan, if_neg (by simp), if_neg hquote, if_pos hpunctuation, ofText]

theorem ofText_space (rest : Text) : ofText (' ' :: rest) = ofText rest := rfl

theorem scan_detached {pending rest : Text} (hpending : pending ≠ []) (hrest : Detached rest) :
    scan false pending rest = pending.reverse :: ofText rest := by
  have hflush : ∀ tokens, flush pending tokens = pending.reverse :: tokens := by
    intro tokens
    simp [flush, hpending]
  cases rest with
  | nil => exact hflush []
  | cons c rest =>
      obtain rfl : c = ' ' := by simpa [Detached] using hrest
      exact hflush (scan false [] rest)

/-- A word that nothing prolongs is a token. -/
theorem scan_word_detached {word rest : Text} (hword : IsWord word) (hrest : Detached rest) :
    scan false [] (word ++ rest) = word :: ofText rest := by
  rw [scan_word hword.2, List.append_nil, scan_detached (by simpa using hword.1) hrest,
    List.reverse_reverse]

/-- A token that blanks can stand around: a word or a mark. -/
def IsPlain (token : Token) : Prop :=
  token.IsWord ∨ ∃ c, token = [c] ∧ isPunctuation c = true

/-- Tokens written with a blank before each. -/
def spaced (tokens : List Token) : Text :=
  tokens.flatMap (' ' :: ·)

theorem detached_spaced (tokens : List Token) : Detached (spaced tokens) := by
  cases tokens with
  | nil => exact Or.inl rfl
  | cons token rest => exact Or.inr rfl

/-- Quotes with the text between them. -/
def IsQuotation (token : Token) : Prop :=
  ∃ body, '"' ∉ body ∧ token = '"' :: (body ++ ['"'])

/-- A quote that is never closed, with the text behind it. -/
def IsOpenQuotation (token : Token) : Prop :=
  ∃ body, '"' ∉ body ∧ token = '"' :: body

/-- Tokens that are words, marks and quotations.  Only behind the last one a
quote may be missing. -/
inductive Legible : List Token → Prop where
  | nil : Legible []
  | unclosed {token : Token} : token.IsOpenQuotation → Legible [token]
  | cons {token : Token} {rest : List Token} :
      token.IsPlain ∨ token.IsQuotation → Legible rest → Legible (token :: rest)

theorem legible_append {tokens last : List Token}
    (htokens : ∀ token ∈ tokens, token.IsPlain ∨ token.IsQuotation) (hlast : Legible last) :
    Legible (tokens ++ last) := by
  induction tokens with
  | nil => exact hlast
  | cons token rest ih =>
      apply Legible.cons (htokens token List.mem_cons_self)
      exact ih fun other hother => htokens other (List.mem_cons_of_mem token hother)

theorem legible_of_forall {tokens : List Token}
    (htokens : ∀ token ∈ tokens, token.IsPlain ∨ token.IsQuotation) : Legible tokens := by
  have hlegible := legible_append htokens .nil
  rwa [List.append_nil] at hlegible

theorem Legible.ne_nil {tokens : List Token} (hlegible : Legible tokens) :
    ∀ token ∈ tokens, token ≠ [] := by
  induction hlegible with
  | nil => simp
  | unclosed hopen =>
      obtain ⟨body, _, rfl⟩ := hopen
      simp
  | cons hfirst _ ih =>
      rw [List.forall_mem_cons]
      refine ⟨?_, ih⟩
      rcases hfirst with (hword | ⟨c, rfl, _⟩) | ⟨body, _, rfl⟩
      · exact hword.1
      · simp
      · simp

theorem ofText_quote {body : Text} (hbody : '"' ∉ body) (rest : Text) :
    ofText ('"' :: (body ++ rest)) = scan true (body.reverse ++ ['"']) rest :=
  scan_quoted hbody ['"'] rest

/-- Legible tokens can be read back. -/
theorem Legible.ofText_spaced {tokens : List Token} (hlegible : Legible tokens) :
    ofText (spaced tokens) = tokens := by
  induction hlegible with
  | nil => rfl
  | unclosed hopen =>
      obtain ⟨body, hbody, rfl⟩ := hopen
      rw [spaced, List.flatMap_cons, List.cons_append, ofText_space, List.cons_append,
        ofText_quote hbody]
      simp [scan, flush]
  | @cons token rest hfirst _ ih =>
      have hspaced : spaced (token :: rest) = ' ' :: (token ++ spaced rest) := rfl
      rw [hspaced, ofText_space]
      rcases hfirst with (hword | ⟨c, rfl, hpunctuation⟩) | ⟨body, hbody, rfl⟩
      · rw [ofText, scan_word_detached hword (detached_spaced rest), ih]
      · rw [List.singleton_append, ofText, scan_punctuation hpunctuation, ih]
        rfl
      · rw [List.cons_append, List.append_assoc, ofText_quote hbody, List.singleton_append, scan,
          if_pos rfl, if_pos rfl, ← ofText, ih]
        simp

/-- Plain tokens can be read back. -/
theorem ofText_spaced {tokens : List Token} (htokens : ∀ token ∈ tokens, token.IsPlain) :
    ofText (spaced tokens) = tokens := by
  apply Legible.ofText_spaced
  apply legible_of_forall
  intro token htoken
  exact Or.inl (htokens token htoken)

/-- Where a scan stands: the complete tokens, whether it is inside quotes, and
the pending characters in reverse. -/
structure Scanned where
  tokens : List Token := []
  quoted : Bool := false
  pending : Text := []

namespace Scanned

def next (scanned : Scanned) (c : Char) : Scanned :=
  if scanned.quoted then
    if c = '"' then { tokens := scanned.tokens ++ [(c :: scanned.pending).reverse] }
    else { scanned with pending := c :: scanned.pending }
  else if c = '"' then
    { tokens := scanned.tokens ++ flush scanned.pending [], quoted := true, pending := [c] }
  else if isPunctuation c then { tokens := scanned.tokens ++ flush scanned.pending [[c]] }
  else if isGap c then { tokens := scanned.tokens ++ flush scanned.pending [] }
  else { scanned with pending := c :: scanned.pending }

def ofText (text : Text) : Scanned :=
  text.foldl next {}

theorem ofText_concat (text : Text) (c : Char) :
    ofText (text ++ [c]) = (ofText text).next c := by
  simp [ofText]

/-- All tokens, once a rest is read from a standing. -/
def finish (scanned : Scanned) (rest : Text) : List Token :=
  scanned.tokens ++ scan scanned.quoted scanned.pending rest

theorem flush_eq_append (pending : Text) (tokens : List Token) :
    flush pending tokens = flush pending [] ++ tokens := by
  unfold flush
  split <;> rfl

theorem finish_cons (scanned : Scanned) (c : Char) (rest : Text) :
    scanned.finish (c :: rest) = (scanned.next c).finish rest := by
  obtain ⟨tokens, quoted, pending⟩ := scanned
  unfold finish next
  cases quoted with
  | true =>
      by_cases hquote : c = '"'
      · simp [scan, hquote]
      · simp [scan, hquote]
  | false =>
      by_cases hquote : c = '"'
      · simp [scan, hquote, flush_eq_append pending (scan true _ _)]
      · by_cases hpunctuation : isPunctuation c = true
        · simp [scan, hquote, hpunctuation, flush_eq_append pending (_ :: _)]
        · by_cases hgap : isGap c = true
          · simp [scan, hquote, hpunctuation, hgap, flush_eq_append pending (scan false _ _)]
          · simp [scan, hquote, hpunctuation, hgap]

theorem finish_foldl (scanned : Scanned) (before rest : Text) :
    scanned.finish (before ++ rest) = (before.foldl next scanned).finish rest := by
  induction before generalizing scanned with
  | nil => rfl
  | cons c before ih =>
      rw [List.cons_append, finish_cons, ih]
      rfl

/-- Everything that one more character can do to a scan. -/
inductive Advance (scanned : Scanned) (c : Char) : Scanned → Prop where
  | closed : scanned.quoted = true → c = '"' →
      Advance scanned c { tokens := scanned.tokens ++ [(c :: scanned.pending).reverse] }
  | inside : scanned.quoted = true → c ≠ '"' →
      Advance scanned c { scanned with pending := c :: scanned.pending }
  | opened : scanned.quoted = false → c = '"' →
      Advance scanned c
        { tokens := scanned.tokens ++ flush scanned.pending [], quoted := true, pending := [c] }
  | mark : scanned.quoted = false → isPunctuation c = true →
      Advance scanned c { tokens := scanned.tokens ++ flush scanned.pending [[c]] }
  | gap : scanned.quoted = false → isGap c = true →
      Advance scanned c { tokens := scanned.tokens ++ flush scanned.pending [] }
  | word : scanned.quoted = false → isWordChar c = true →
      Advance scanned c { scanned with pending := c :: scanned.pending }

theorem next_advance (scanned : Scanned) (c : Char) : scanned.Advance c (scanned.next c) := by
  unfold next
  by_cases hquoted : scanned.quoted = true
  · rw [if_pos hquoted]
    by_cases hquote : c = '"'
    · rw [if_pos hquote]
      exact .closed hquoted hquote
    · rw [if_neg hquote]
      exact .inside hquoted hquote
  · have houtside : scanned.quoted = false := by simpa using hquoted
    rw [if_neg hquoted]
    by_cases hquote : c = '"'
    · rw [if_pos hquote]
      exact .opened houtside hquote
    · rw [if_neg hquote]
      by_cases hpunctuation : isPunctuation c = true
      · rw [if_pos hpunctuation]
        exact .mark houtside hpunctuation
      · rw [if_neg hpunctuation]
        by_cases hgap : isGap c = true
        · rw [if_pos hgap]
          exact .gap houtside hgap
        · rw [if_neg hgap]
          have hword : isWordChar c = true :=
            isWordChar_iff.2 ⟨hquote, by simpa using hpunctuation, by simpa using hgap⟩
          exact .word houtside hword

/-- The complete tokens are legible, and what is pending is a quotation inside
quotes and a piece of a word outside. -/
structure Sound (scanned : Scanned) : Prop where
  tokens : ∀ token ∈ scanned.tokens, token.IsPlain ∨ token.IsQuotation
  inside : scanned.quoted = true → IsOpenQuotation scanned.pending.reverse
  outside : scanned.quoted = false → ∀ c ∈ scanned.pending, isWordChar c = true

/-- Outside quotes the pending characters are a word, if there are any. -/
theorem Sound.flush {scanned : Scanned} (hsound : scanned.Sound)
    (hquoted : scanned.quoted = false) :
    ∀ token ∈ flush scanned.pending [], token.IsPlain := by
  intro token htoken
  by_cases hpending : scanned.pending = []
  · simp [Token.flush, hpending] at htoken
  · obtain rfl : token = scanned.pending.reverse := by
      simpa [Token.flush, hpending] using htoken
    refine Or.inl ⟨by simpa using hpending, fun c hc => ?_⟩
    exact hsound.outside hquoted c (List.mem_reverse.1 hc)

/-- One more character keeps a scan sound. -/
theorem Sound.advance {scanned after : Scanned} {c : Char} (hsound : scanned.Sound)
    (hadvance : scanned.Advance c after) : after.Sound := by
  cases hadvance with
  | closed hquoted hquote =>
      obtain ⟨body, hbody, hpending⟩ := hsound.inside hquoted
      refine ⟨List.forall_mem_append.2 ⟨hsound.tokens, ?_⟩, by simp, by simp⟩
      rw [List.forall_mem_singleton]
      exact Or.inr ⟨body, hbody, by rw [List.reverse_cons, hpending, hquote, List.cons_append]⟩
  | inside hquoted hquote =>
      obtain ⟨body, hbody, hpending⟩ := hsound.inside hquoted
      refine ⟨hsound.tokens, fun _ => ⟨body ++ [c], ?_, ?_⟩, by simp [hquoted]⟩
      · simpa [hbody] using Ne.symm hquote
      · rw [List.reverse_cons, hpending, List.cons_append]
  | opened hquoted hquote =>
      have hflush := hsound.flush hquoted
      refine ⟨List.forall_mem_append.2 ⟨hsound.tokens, fun token htoken => ?_⟩, ?_, by simp⟩
      · exact Or.inl (hflush token htoken)
      · exact fun _ => ⟨[], by simp, by simp [hquote]⟩
  | mark hquoted hpunctuation =>
      have hflush := hsound.flush hquoted
      refine ⟨List.forall_mem_append.2 ⟨hsound.tokens, fun token htoken => ?_⟩, by simp, by simp⟩
      rw [flush_eq_append, List.mem_append, List.mem_singleton] at htoken
      rcases htoken with hword | hmark
      · exact Or.inl (hflush token hword)
      · exact Or.inl (Or.inr ⟨c, hmark, hpunctuation⟩)
  | gap hquoted _ =>
      have hflush := hsound.flush hquoted
      refine ⟨List.forall_mem_append.2 ⟨hsound.tokens, fun token htoken => ?_⟩, by simp, by simp⟩
      exact Or.inl (hflush token htoken)
  | word hquoted hword =>
      refine ⟨hsound.tokens, by simp [hquoted], fun _ => ?_⟩
      exact List.forall_mem_cons.2 ⟨hword, hsound.outside hquoted⟩

theorem sound_ofText (text : Text) : (ofText text).Sound := by
  induction text using List.reverseRecOn with
  | nil => exact ⟨by simp [ofText], by simp [ofText], by simp [ofText]⟩
  | append_singleton text c ih =>
      rw [ofText_concat]
      exact ih.advance ((ofText text).next_advance c)

/-- Inside quotes the pending characters begin with the opening quote. -/
theorem pending_of_quoted (text : Text) (hquoted : (ofText text).quoted = true) :
    ∃ inner, (ofText text).pending = inner ++ ['"'] := by
  obtain ⟨body, _, hpending⟩ := (sound_ofText text).inside hquoted
  refine ⟨body.reverse, ?_⟩
  rw [← List.reverse_reverse (ofText text).pending, hpending, List.reverse_cons]

/-- Outside quotes a punctuation character or a gap leaves nothing pending. -/
theorem next_pending_eq_nil {scanned : Scanned} {c : Char} (hquoted : scanned.quoted = false)
    (hquote : c ≠ '"') (hbreak : isPunctuation c = true ∨ isGap c = true) :
    (scanned.next c).quoted = false ∧ (scanned.next c).pending = [] := by
  unfold next
  rw [if_neg (by simp [hquoted]), if_neg hquote]
  split
  · exact ⟨rfl, rfl⟩
  · rename_i hpunctuation
    rw [if_pos (hbreak.resolve_left hpunctuation)]
    exact ⟨rfl, rfl⟩

/-- A quote leads into quotes and out of them, and nothing else does. -/
theorem Advance.quoted_iff {scanned after : Scanned} {c : Char}
    (hadvance : scanned.Advance c after) :
    after.quoted = true ↔ (scanned.quoted = true ↔ c ≠ '"') := by
  cases hadvance with
  | closed hquoted hquote => simp [hquoted, hquote]
  | inside hquoted hquote => simp [hquoted, hquote]
  | opened hquoted hquote => simp [hquoted, hquote]
  | mark hquoted hpunctuation =>
      have hquote : c ≠ '"' := by
        rintro rfl
        exact absurd hpunctuation (by decide)
      simp [hquoted, hquote]
  | gap hquoted hgap =>
      have hquote : c ≠ '"' := by
        rintro rfl
        exact absurd hgap (by decide)
      simp [hquoted, hquote]
  | word hquoted hword => simp [hquoted, (isWordChar_iff.1 hword).1]

/-- A scan is inside quotes exactly behind an odd number of them. -/
theorem quoted_ofText_iff (text : Text) :
    (ofText text).quoted = true ↔ text.count '"' % 2 = 1 := by
  induction text using List.reverseRecOn with
  | nil => simp [ofText]
  | append_singleton text c ih =>
      have hadvance := (ofText text).next_advance c
      rw [ofText_concat, hadvance.quoted_iff, ih, List.count_append]
      by_cases hquote : c = '"'
      · have hone : List.count '"' [c] = 1 := by rw [hquote]; decide
        simp only [hquote, ne_eq, not_true_eq_false, iff_false] at hone ⊢
        omega
      · have hnone : List.count '"' [c] = 0 := List.count_eq_zero.2 (by simpa using Ne.symm hquote)
        rw [hnone, Nat.add_zero, iff_true_right hquote]

theorem quoted_ofText_of_even {text : Text} (hquotes : text.count '"' % 2 = 0) :
    (ofText text).quoted = false := by
  apply Bool.eq_false_iff.2
  intro hquoted
  have hodd := (quoted_ofText_iff text).1 hquoted
  omega

end Scanned

/-- The tokens of a text in two pieces follow from the standing between
them. -/
theorem ofText_append (before rest : Text) :
    ofText (before ++ rest) = (Scanned.ofText before).finish rest :=
  Scanned.finish_foldl {} before rest

/-- At the end of a text the pending characters become the last token. -/
theorem ofText_eq_flush (text : Text) :
    ofText text = (Scanned.ofText text).tokens ++ flush (Scanned.ofText text).pending [] := by
  have hwhole := ofText_append text []
  rwa [List.append_nil, Scanned.finish, scan] at hwhole

/-- Outside quotes a blank parts the tokens before it from those behind it. -/
theorem ofText_append_space {before : Text} (hquotes : before.count '"' % 2 = 0) (rest : Text) :
    ofText (before ++ ' ' :: rest) = ofText before ++ ofText rest := by
  have hblank : ∀ pending, scan false pending (' ' :: rest) = flush pending (ofText rest) :=
    fun _ => rfl
  rw [ofText_append, Scanned.finish, Scanned.quoted_ofText_of_even hquotes, hblank,
    Scanned.flush_eq_append, ← List.append_assoc, ← ofText_eq_flush]

/-- A text that ends between two tokens: the tokens of what follows are added
to its own. -/
def Separated (before : Text) : Prop :=
  ∀ rest, ofText (before ++ rest) = ofText before ++ ofText rest

/-- A text that ends inside quotes, behind some tokens and with the characters
after the opening quote in reverse. -/
def Quoting (before : Text) (tokens : List Token) (inner : Text) : Prop :=
  ∀ rest, ofText (before ++ rest) = tokens ++ scan true (inner ++ ['"']) rest

theorem separated_of_pending {before : Text} (hquoted : (Scanned.ofText before).quoted = false)
    (hpending : (Scanned.ofText before).pending = []) : Separated before := by
  have hfinish : ∀ rest,
      ofText (before ++ rest) = (Scanned.ofText before).tokens ++ ofText rest := by
    intro rest
    rw [ofText_append, Scanned.finish, hquoted, hpending, ofText]
  have hbefore : ofText before = (Scanned.ofText before).tokens := by
    have hwhole := hfinish []
    have hnil : ofText [] = [] := rfl
    rwa [hnil, List.append_nil, List.append_nil] at hwhole
  intro rest
  rw [hfinish, hbefore]

/-- Inside quotes the next token begins with the opening quote. -/
theorem scan_pending_quote (inner rest : Text) :
    ∃ body tokens, scan true (inner ++ ['"']) rest = ('"' :: body) :: tokens := by
  induction rest generalizing inner with
  | nil => exact ⟨inner.reverse, [], by simp [scan, flush]⟩
  | cons c rest ih =>
      by_cases hquote : c = '"'
      · exact ⟨inner.reverse ++ [c], scan false [] rest, by simp [scan, hquote]⟩
      · obtain ⟨body, tokens, hscan⟩ := ih (c :: inner)
        exact ⟨body, tokens, by simpa [scan, hquote] using hscan⟩

/-- A piece of text behind which a word can begin: it is empty or ends in a
delimiter. -/
def AtBoundary (before : Text) : Prop :=
  ∀ c ∈ before.getLast?, Delimiters.standard.contains c = true

instance (before : Text) : Decidable (AtBoundary before) :=
  decidable_of_iff (before.getLast?.all Delimiters.standard.contains = true)
    (by simp [AtBoundary, Option.all_eq_true])

theorem isBreak_of_delimiter {c : Char} (hc : Delimiters.standard.contains c = true) :
    c ≠ '"' ∧ (isPunctuation c = true ∨ isGap c = true) := by
  have hbreaks : Delimiters.standard.chars.all
      (fun c => decide (c ≠ '"' ∧ (isPunctuation c = true ∨ isGap c = true))) = true := by
    decide
  exact of_decide_eq_true (List.all_eq_true.1 hbreaks c (List.contains_iff_mem.1 hc))

/-- Outside quotes a delimiter leaves nothing pending. -/
theorem AtBoundary.pending_eq_nil {before : Text} (hbefore : AtBoundary before)
    (hquoted : (Scanned.ofText before).quoted = false) :
    (Scanned.ofText before).pending = [] := by
  induction before using List.reverseRecOn with
  | nil => rfl
  | append_singleton text c _ =>
      obtain ⟨hquote, hbreak⟩ := isBreak_of_delimiter (hbefore c (by simp))
      rw [Scanned.ofText_concat] at hquoted ⊢
      -- A delimiter is no quote, so it does not lead out of quotes.
      cases hinside : (Scanned.ofText text).quoted with
      | false => exact (Scanned.next_pending_eq_nil hinside hquote hbreak).2
      | true => exact absurd hquoted (by simp [Scanned.next, hinside, hquote])

/-- Behind a delimiter a text is between two tokens or inside quotes. -/
theorem AtBoundary.separated_or_quoting {before : Text} (hbefore : AtBoundary before) :
    Separated before ∨ ∃ tokens inner, Quoting before tokens inner := by
  cases hquoted : (Scanned.ofText before).quoted with
  | true =>
      obtain ⟨inner, hinner⟩ := Scanned.pending_of_quoted before hquoted
      refine Or.inr ⟨(Scanned.ofText before).tokens, inner, fun rest => ?_⟩
      rw [ofText_append, Scanned.finish, hquoted, hinner]
  | false => exact Or.inl (separated_of_pending hquoted (hbefore.pending_eq_nil hquoted))

/-- Behind a delimiter with all quotes closed a text is between two tokens. -/
theorem AtBoundary.separated_of_even {before : Text} (hbefore : AtBoundary before)
    (hquotes : before.count '"' % 2 = 0) : Separated before := by
  have houtside := Scanned.quoted_ofText_of_even hquotes
  exact separated_of_pending houtside (hbefore.pending_eq_nil houtside)

end Token

end ClassExpr
