/-
Edits by bytes are edits by characters.

The byte index of an offset is the size of the UTF-8 form of the characters
before it.  The byte indices of a text are exactly the boundaries between its
characters and grow with the offset, so an edit never cuts a character and never
names a range backwards.  The bytes that it leaves are the UTF-8 form of the
characters that it leaves.
-/
import ClassExpr.Proofs.BufferEdits

namespace ClassExpr

namespace Text

theorem size_utf8Encode (text : Text) : text.utf8Encode.size = utf8Length text := by
  induction text with
  | nil => rfl
  | cons c rest ih =>
      rw [List.utf8Encode_cons, ByteArray.size_append, List.utf8Encode_singleton,
        List.size_toByteArray, String.length_utf8EncodeChar, utf8Length_cons, ih]

theorem byteIndex?_eq_size (text : Text) (offset : Nat) :
    text.byteIndex? offset =
      if offset ≤ text.length then some (text.take offset).utf8Encode.size else none := by
  rw [byteIndex?_eq, size_utf8Encode]

theorem byteIndex?_eq_some_iff {text : Text} {offset index : Nat} :
    text.byteIndex? offset = some index ↔
      offset ≤ text.length ∧ (text.take offset).utf8Encode.size = index := by
  rw [byteIndex?_eq_size, Option.ite_none_right_eq_some, Option.some_inj]

/-- Every character takes at least one byte. -/
theorem utf8Length_take_lt {text : Text} {offset later : Nat} (hlater : offset < later)
    (hinside : later ≤ text.length) :
    utf8Length (text.take offset) < utf8Length (text.take later) := by
  induction text generalizing offset later with
  | nil =>
      have hzero : later = 0 := Nat.le_zero.1 hinside
      omega
  | cons c rest ih =>
      cases later with
      | zero => omega
      | succ later =>
          rw [List.take_succ_cons, utf8Length_cons]
          cases offset with
          | zero => exact Nat.lt_of_lt_of_le c.utf8Size_pos (Nat.le_add_right _ _)
          | succ offset =>
              rw [List.take_succ_cons, utf8Length_cons]
              have hrest := ih (Nat.lt_of_succ_lt_succ hlater) (Nat.le_of_succ_le_succ hinside)
              exact Nat.add_lt_add_left hrest _

theorem byteIndex?_lt {text : Text} {offset later first last : Nat}
    (hfirst : text.byteIndex? offset = some first) (hlast : text.byteIndex? later = some last)
    (hlater : offset < later) : first < last := by
  obtain ⟨_, rfl⟩ := byteIndex?_eq_some_iff.1 hfirst
  obtain ⟨hinside, rfl⟩ := byteIndex?_eq_some_iff.1 hlast
  rw [size_utf8Encode, size_utf8Encode]
  exact utf8Length_take_lt hlater hinside

/-- An index in the UTF-8 form of a text where a character begins, or the end. -/
def IsBoundary (text : Text) (index : Nat) : Prop :=
  String.Pos.Raw.IsValid (String.ofList text) ⟨index⟩

instance (text : Text) (index : Nat) : Decidable (text.IsBoundary index) :=
  inferInstanceAs (Decidable (String.Pos.Raw.IsValid _ _))

/-- The boundaries of a text are the byte indices of its offsets. -/
theorem isBoundary_iff {text : Text} {index : Nat} :
    text.IsBoundary index ↔ ∃ offset, text.byteIndex? offset = some index := by
  rw [IsBoundary, String.Pos.Raw.isValid_iff_exists_append]
  constructor
  · -- A valid position cuts the string in two, and the first part ends at an offset.
    rintro ⟨front, rest, htext, hindex⟩
    have hchars : text = front.toList ++ rest.toList := by
      rw [← String.toList_append, ← htext, String.toList_ofList]
    refine ⟨front.toList.length, byteIndex?_eq_some_iff.2 ?_⟩
    rw [hchars, List.take_left, List.length_append, String.utf8Encode_toList]
    exact ⟨Nat.le_add_right _ _, (congrArg String.Pos.Raw.byteIdx hindex).symm⟩
  · rintro ⟨offset, hoffset⟩
    obtain ⟨_, rfl⟩ := byteIndex?_eq_some_iff.1 hoffset
    refine ⟨String.ofList (text.take offset), String.ofList (text.drop offset), ?_, rfl⟩
    rw [← String.ofList_append, List.take_append_drop]

theorem utf8Encode_eq_append (text : Text) (offset : Nat) :
    text.utf8Encode = (text.take offset).utf8Encode ++ (text.drop offset).utf8Encode := by
  rw [← List.utf8Encode_append, List.take_append_drop]

theorem extract_before_byteIndex {text : Text} {offset index : Nat}
    (hindex : text.byteIndex? offset = some index) :
    text.utf8Encode.extract 0 index = (text.take offset).utf8Encode := by
  obtain ⟨_, rfl⟩ := byteIndex?_eq_some_iff.1 hindex
  rw [text.utf8Encode_eq_append offset]
  exact ByteArray.extract_append_eq_left rfl

theorem extract_from_byteIndex {text : Text} {offset index : Nat}
    (hindex : text.byteIndex? offset = some index) :
    text.utf8Encode.extract index text.utf8Encode.size = (text.drop offset).utf8Encode := by
  obtain ⟨_, rfl⟩ := byteIndex?_eq_some_iff.1 hindex
  rw [text.utf8Encode_eq_append offset]
  exact ByteArray.extract_append_eq_right rfl ByteArray.size_append

/-- A text in which the bytes from `first` up to `last` were replaced by those of
a word.  The range is in order and cuts no character. -/
structure Spliced (before : Text) (first last : Nat) (word after : Text) : Prop where
  after_eq : after = before.spliceBytes first last word
  ordered : first ≤ last
  first_boundary : before.IsBoundary first
  last_boundary : before.IsBoundary last
  bytes_eq : after.utf8Encode =
    before.utf8Encode.extract 0 first ++ word.utf8Encode ++
      before.utf8Encode.extract last before.utf8Encode.size

/-- A text in which the characters from `start` up to `stop` were replaced by a
word, by way of their bytes. -/
structure EditedByBytes (before : Text) (start stop : Nat) (word after : Text) : Prop where
  bytes : ∃ first last, before.byteIndex? start = some first ∧
    before.byteIndex? stop = some last ∧ before.Spliced first last word after
  chars : after = before.take start ++ word ++ before.drop stop

theorem editedByBytes_of_le {before : Text} {start stop : Nat} (horder : start ≤ stop)
    (hstop : stop ≤ before.length) (word : Text) :
    before.EditedByBytes start stop word (before.take start ++ word ++ before.drop stop) := by
  have hfirst := byteIndex?_eq_some_iff.2 ⟨Nat.le_trans horder hstop, rfl⟩
  have hlast := byteIndex?_eq_some_iff.2 ⟨hstop, rfl⟩
  refine ⟨⟨_, _, hfirst, hlast, ?_⟩, rfl⟩
  exact
    { after_eq := by rw [size_utf8Encode, size_utf8Encode, spliceBytes_take]
      ordered := by
        rcases Nat.eq_or_lt_of_le horder with rfl | hlt
        · exact Nat.le_refl _
        · exact Nat.le_of_lt (byteIndex?_lt hfirst hlast hlt)
      first_boundary := isBoundary_iff.2 ⟨start, hfirst⟩
      last_boundary := isBoundary_iff.2 ⟨stop, hlast⟩
      bytes_eq := by
        rw [extract_before_byteIndex hfirst, extract_from_byteIndex hlast,
          List.utf8Encode_append, List.utf8Encode_append] }

end Text

namespace Buffer

theorem remove_editedByBytes (buffer : Buffer) {start length : Nat}
    (hrange : start + length ≤ buffer.text.length) :
    (buffer.remove start length).fault? = none ∧
      buffer.text.EditedByBytes start (start + length) []
        (buffer.remove start length).document.text := by
  have hedited := Text.editedByBytes_of_le (Nat.le_add_right start length) hrange []
  rw [List.append_nil] at hedited
  rw [buffer.remove_eq hrange]
  exact ⟨rfl, hedited⟩

theorem insert_editedByBytes (buffer : Buffer) {offset : Nat}
    (hrange : offset ≤ buffer.text.length) (word : Text) :
    (buffer.insert offset word).fault? = none ∧
      buffer.text.EditedByBytes offset offset word (buffer.insert offset word).document.text := by
  rw [buffer.insert_eq hrange]
  exact ⟨rfl, Text.editedByBytes_of_le (Nat.le_refl offset) hrange word⟩

theorem type_editedByBytes (buffer : Buffer) (hcaret : buffer.caret ≤ buffer.text.length)
    (typed : Text) :
    buffer.text.EditedByBytes buffer.caret buffer.caret typed (buffer.type typed).text := by
  rw [buffer.type_eq hcaret]
  exact Text.editedByBytes_of_le (Nat.le_refl buffer.caret) hcaret typed

/-- The byte index of an offset is the size of the characters before it, byte
indices grow with the offset, and they are the boundaries between characters.  An
edit in the text replaces the bytes between two boundaries, which replaces the
characters between its offsets, and any other edit leaves the buffer as it is. -/
theorem edits_at_byteIndex (buffer : Buffer) :
    (∀ offset, buffer.text.byteIndex? offset =
      if offset ≤ buffer.text.length then some (buffer.text.take offset).utf8Encode.size
      else none) ∧
    (∀ offset later first last, buffer.text.byteIndex? offset = some first →
      buffer.text.byteIndex? later = some last → offset < later → first < last) ∧
    (∀ index, buffer.text.IsBoundary index ↔
      ∃ offset, buffer.text.byteIndex? offset = some index) ∧
    (∀ start length,
      if start + length ≤ buffer.text.length then
        (buffer.remove start length).fault? = none ∧
          buffer.text.EditedByBytes start (start + length) []
            (buffer.remove start length).document.text
      else buffer.remove start length = .refused buffer (.outOfRange start length)) ∧
    (∀ offset word,
      if offset ≤ buffer.text.length then
        (buffer.insert offset word).fault? = none ∧
          buffer.text.EditedByBytes offset offset word (buffer.insert offset word).document.text
      else buffer.insert offset word = .refused buffer (.outOfRange offset 0)) ∧
    ∀ typed,
      if buffer.caret ≤ buffer.text.length then
        buffer.text.EditedByBytes buffer.caret buffer.caret typed (buffer.type typed).text
      else buffer.type typed = buffer := by
  refine ⟨buffer.text.byteIndex?_eq_size, fun _ _ _ _ => Text.byteIndex?_lt,
    fun _ => Text.isBoundary_iff, ?_, ?_, ?_⟩
  · intro start length
    by_cases hrange : start + length ≤ buffer.text.length
    · rw [if_pos hrange]
      exact buffer.remove_editedByBytes hrange
    · rw [if_neg hrange]
      exact buffer.remove_of_lt (Nat.lt_of_not_le hrange)
  · intro offset word
    by_cases hrange : offset ≤ buffer.text.length
    · rw [if_pos hrange]
      exact buffer.insert_editedByBytes hrange word
    · rw [if_neg hrange]
      exact buffer.insert_of_lt (Nat.lt_of_not_le hrange) word
  · intro typed
    by_cases hcaret : buffer.caret ≤ buffer.text.length
    · rw [if_pos hcaret]
      exact buffer.type_editedByBytes hcaret typed
    · rw [if_neg hcaret]
      exact buffer.type_of_lt (Nat.lt_of_not_le hcaret) typed

/-- Characters of two, three and four bytes are deleted from between two of one
byte.  The index 2 is inside the first of them. -/
theorem edits_at_byteIndex_wide :
    let buffer := ofText "aÄ漢😀b".toList
    let after := (buffer.remove 1 3).document
    buffer.text.byteIndex? 1 = some 1 ∧ buffer.text.byteIndex? 4 = some 10 ∧ 1 < 10 ∧
      buffer.text.IsBoundary 1 ∧ ¬ buffer.text.IsBoundary 2 ∧
      buffer.text.Spliced 1 10 [] after.text ∧ after.text = "ab".toList := by
  intro buffer after
  obtain ⟨_, hgrows, hboundary, hremove, _⟩ := edits_at_byteIndex buffer
  have hstart : buffer.text.byteIndex? 1 = some 1 := by decide +kernel
  have hstop : buffer.text.byteIndex? 4 = some 10 := by decide +kernel
  have hrange : 1 + 3 ≤ buffer.text.length := by decide +kernel
  have hedit := hremove 1 3
  rw [if_pos hrange] at hedit
  obtain ⟨_, ⟨first, last, hfirst, hlast, hspliced⟩, hchars⟩ := hedit
  obtain rfl := Option.some.inj (hstart.symm.trans hfirst)
  obtain rfl := Option.some.inj (hstop.symm.trans hlast)
  exact ⟨hstart, hstop, hgrows 1 4 1 10 hstart hstop (by decide), (hboundary 1).2 ⟨1, hstart⟩,
    by decide +kernel, hspliced, hchars.trans (by decide +kernel)⟩

end Buffer

end ClassExpr
