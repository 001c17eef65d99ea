/-
Edits of a buffer, character by character.

A buffer finds the places of an edit by byte indices.  The byte index of an
offset is the number of bytes before it, so cutting there cuts the list of
characters at the offset, and an edit fails exactly if it names a place
beyond the end.
-/
import ClassExpr.Document.Buffer

namespace ClassExpr

namespace Text

theorem foldl_utf8Size (base : Nat) (text : Text) :
    text.foldl (fun size c => size + c.utf8Size) base = base + utf8Length text := by
  unfold utf8Length
  induction text generalizing base with
  | nil => rfl
  | cons c rest ih =>
      rw [List.foldl_cons, List.foldl_cons, ih, ih (0 + c.utf8Size)]
      omega

@[simp] theorem utf8Length_nil : utf8Length [] = 0 := rfl

@[simp] theorem utf8Length_cons (c : Char) (rest : Text) :
    utf8Length (c :: rest) = c.utf8Size + utf8Length rest := by
  have hfold := foldl_utf8Size (0 + c.utf8Size) rest
  rw [Nat.zero_add] at hfold
  rw [← hfold]
  simp [utf8Length]

theorem byteIndexFrom_eq (base : Nat) (text : Text) (offset : Nat) :
    byteIndexFrom base text offset =
      if offset ≤ text.length then some (base + utf8Length (text.take offset)) else none := by
  induction offset generalizing base text with
  | zero => simp [byteIndexFrom]
  | succ offset ih =>
      cases text with
      | nil => simp [byteIndexFrom]
      | cons c rest =>
          rw [byteIndexFrom, ih]
          simp [Nat.add_assoc]

/-- The byte index of an offset is the size of the text before it. -/
theorem byteIndex?_eq (text : Text) (offset : Nat) :
    text.byteIndex? offset =
      if offset ≤ text.length then some (utf8Length (text.take offset)) else none := by
  rw [byteIndex?, byteIndexFrom_eq]
  simp

theorem splitBytesFrom_take (before text : Text) (offset : Nat) :
    splitBytesFrom before (utf8Length (text.take offset)) text =
      (before.reverse ++ text.take offset, text.drop offset) := by
  induction text generalizing before offset with
  | nil => simp [splitBytesFrom]
  | cons c rest ih =>
      cases offset with
      | zero =>
          have hsize : ¬ c.utf8Size ≤ 0 := Nat.not_le.mpr c.utf8Size_pos
          simp [splitBytesFrom, hsize]
      | succ offset =>
          have hfits : c.utf8Size ≤ c.utf8Size + utf8Length (rest.take offset) :=
            Nat.le_add_right _ _
          rw [List.take_succ_cons, utf8Length_cons, splitBytesFrom, if_pos hfits,
            Nat.add_sub_cancel_left, ih]
          simp

/-- A text cut at the size of its first characters is cut behind them. -/
theorem splitBytes_take (text : Text) (offset : Nat) :
    splitBytes (utf8Length (text.take offset)) text = (text.take offset, text.drop offset) := by
  simp [splitBytes, splitBytesFrom_take]

/-- Replacing the bytes between two offsets replaces the characters between
them. -/
theorem spliceBytes_take (text : Text) (first last : Nat) (word : Text) :
    text.spliceBytes (utf8Length (text.take first)) (utf8Length (text.take last)) word =
      text.take first ++ word ++ text.drop last := by
  simp [spliceBytes, splitBytes_take]

theorem span_eq {text : Text} {start length : Nat} (hrange : start + length ≤ text.length) :
    text.span start length = .ok ((text.drop start).take length) := by
  rw [span, if_neg (Nat.not_lt.2 hrange)]

end Text

namespace Buffer

theorem remove_eq (buffer : Buffer) {start length : Nat}
    (hrange : start + length ≤ buffer.text.length) :
    buffer.remove start length =
      ⟨{ buffer with
          text := buffer.text.take start ++ buffer.text.drop (start + length)
          caret := caretAfterRemoval buffer.caret start (start + length) }, none⟩ := by
  have hstart : start ≤ buffer.text.length := by omega
  have hsplice := Text.spliceBytes_take buffer.text start (start + length) []
  rw [List.append_nil] at hsplice
  simp [remove, Text.byteIndex?_eq, hstart, hrange, hsplice]

theorem remove_of_lt (buffer : Buffer) {start length : Nat}
    (hrange : buffer.text.length < start + length) :
    buffer.remove start length = .refused buffer (.outOfRange start length) := by
  have hlast : buffer.text.byteIndex? (start + length) = none := by
    rw [Text.byteIndex?_eq, if_neg (Nat.not_le.2 hrange)]
  rw [remove, hlast]
  cases buffer.text.byteIndex? start with
  | none => rfl
  | some first => rfl

theorem insert_eq (buffer : Buffer) {offset : Nat} (hrange : offset ≤ buffer.text.length)
    (word : Text) :
    buffer.insert offset word =
      ⟨{ buffer with
          text := buffer.text.take offset ++ word ++ buffer.text.drop offset
          caret := offset + word.length }, none⟩ := by
  simp [insert, Text.byteIndex?_eq, hrange, Text.spliceBytes_take]

theorem insert_of_lt (buffer : Buffer) {offset : Nat} (hrange : buffer.text.length < offset)
    (word : Text) : buffer.insert offset word = .refused buffer (.outOfRange offset 0) := by
  rw [insert, Text.byteIndex?_eq, if_neg (Nat.not_le.2 hrange)]

theorem type_eq (buffer : Buffer) (hcaret : buffer.caret ≤ buffer.text.length) (typed : Text) :
    buffer.type typed =
      { buffer with
        text := buffer.text.take buffer.caret ++ typed ++ buffer.text.drop buffer.caret
        caret := buffer.caret + typed.length } := by
  simp [type, Text.byteIndex?_eq, hcaret, Text.spliceBytes_take]

theorem type_of_lt (buffer : Buffer) (hcaret : buffer.text.length < buffer.caret)
    (typed : Text) : buffer.type typed = buffer := by
  rw [type, Text.byteIndex?_eq, if_neg (Nat.not_le.2 hcaret)]

theorem setCaret_eq (buffer : Buffer) {offset : Nat} (hrange : offset ≤ buffer.text.length) :
    buffer.setCaret offset = ⟨{ buffer with caret := offset }, none⟩ := by
  have hinside : ¬ buffer.text.length < offset := by omega
  simp [setCaret, hinside]

theorem setCaret_of_lt (buffer : Buffer) {offset : Nat} (hrange : buffer.text.length < offset) :
    buffer.setCaret offset = .refused buffer (.outOfRange offset 0) := by
  rw [setCaret, if_pos hrange]

end Buffer

end ClassExpr
