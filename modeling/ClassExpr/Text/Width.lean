/-
The columns a text takes on a terminal.  A character has a width of its own,
but some sequences are drawn as one picture or as one letter.  Widths are
added from the right, since they depend on what follows a character.
-/
import ClassExpr.Text.Blank
import ClassExpr.Text.EmojiTable
import ClassExpr.Text.WidthTable

namespace ClassExpr
namespace Text

def isControl (c : Char) : Bool :=
  c.toNat < 0x20 || (0x7F ≤ c.toNat && c.toNat < 0xA0)

/-- The columns of a character by itself; a control character takes one. -/
def charWidth (c : Char) : Nat :=
  let code := c.toNat
  if code < 0xAD then 1
  else if code == 0x17D8 then 3
  else if inRanges zeroWidthRanges code then 0
  else if inRanges wideRanges code then 2
  else 1

/-- The columns a character advances a tab stop by; control characters do
not count. -/
def tabWidth (c : Char) : Nat :=
  if isControl c then 0 else charWidth c

def isFlagLetter (c : Char) : Bool :=
  0x1F1E6 ≤ c.toNat && c.toNat ≤ 0x1F1FF

def isSkinTone (c : Char) : Bool :=
  0x1F3FB ≤ c.toNat && c.toNat ≤ 0x1F3FF

def isPicture (c : Char) : Bool :=
  inRanges pictureRanges c.toNat

def isSelectable (c : Char) : Bool :=
  inRanges selectableRanges c.toNat

/-- The pictures that a selector turns into text of one column; squared
ideographs stay wide. -/
def isTextual (c : Char) : Bool :=
  isSelectable c && isPicture c && !(0x1F200 ≤ c.toNat && c.toNat ≤ 0x1F2FF)

def takesSkinTone (c : Char) : Bool :=
  inRanges skinToneRanges c.toNat

/-- The zero-width joiner. -/
def joiner : Char := Char.ofNat 0x200D

/-- The ends of the sequences of letters that are drawn as one letter. -/
inductive Ligature where
  /-- Arabic alef, which joins a lam. -/
  | alef
  /-- Hebrew lamed, which joins an alef across a joiner. -/
  | lamed (joined : Bool)
  /-- Buginese ya, which joins a vowel across a joiner. -/
  | ya (joined : Bool)
  /-- The Buginese vowel in front of a joiner and ya. -/
  | vowelYa
  /-- A Tifinagh consonant, which joins another one. -/
  | tifinagh (joined : Bool)
  /-- The Tifinagh joining sign in front of a consonant. -/
  | tifinaghSign
  /-- The second part of a Lisu tone. -/
  | tone
  /-- Orkhon i, which joins a consonant across a joiner. -/
  | orkhon (joined : Bool)
  /-- A Khmer letter that can be written below another one. -/
  | khmer
  deriving DecidableEq

/-- What the text behind a character begins with, as far as it matters for
the width of the character. -/
inductive Tail where
  | plain
  | lineFeed
  | skinTone
  | flagLetter
  | flagLetters
  | picture
  /-- A joiner in front of a picture. -/
  | joined
  /-- A keycap in front of a joined picture. -/
  | joinedKeycap
  /-- Some flag letters in front of a joined picture. -/
  | joinedFlag (letters : Nat)
  /-- Tags in front of a joined picture: the last letters or, if there are
  digits before them, the number of those. -/
  | joinedTags (letters digits : Nat)
  | ligature (rest : Ligature)
  deriving DecidableEq

namespace Ligature

/-- A character in front of the end of a ligature: the columns it adds and
what the text now begins with. -/
def join? (rest : Ligature) (c : Char) : Option (Int × Tail) :=
  let code := c.toNat
  match rest with
  | .alef =>
    if inRanges [(0x644, 0x644), (0x6B5, 0x6B8), (0x76A, 0x76A), (0x8A6, 0x8A6),
        (0x8C7, 0x8C7)] code then some (0, .plain)
    else if inRanges zeroWidthRanges code && !inRanges joinStopRanges code then
      some (0, .ligature .alef)
    else none
  | .lamed true => if code == 0x5D0 then some (0, .plain) else none
  | .ya true => if code == 0x1A17 then some (0, .ligature .vowelYa) else none
  | .vowelYa => if code == 0x1A15 then some (0, .plain) else none
  | .tifinagh joined =>
    if code == 0x2D7F then some (1, .ligature .tifinaghSign)
    else if joined && inRanges [(0x2D31, 0x2D65), (0x2D6F, 0x2D6F)] code then
      some (0, .plain)
    else none
  | .tifinaghSign =>
    if inRanges [(0x2D31, 0x2D65), (0x2D6F, 0x2D6F)] code then some (-1, .plain) else none
  | .tone => if inRanges [(0xA4F8, 0xA4FB)] code then some (0, .plain) else none
  | .orkhon true => if code == 0x10C32 then some (0, .plain) else none
  | .khmer => if code == 0x17D2 then some (-1, .plain) else none
  | .lamed false | .ya false | .orkhon false => none

/-- The end of a ligature behind a joiner. -/
def joined : Ligature → Ligature
  | .lamed _ => .lamed true
  | .ya _ => .ya true
  | .tifinagh _ => .tifinagh true
  | .orkhon _ => .orkhon true
  | rest => rest

/-- Whether a mark may stand inside a ligature other than the Arabic one. -/
def isPassed (c : Char) : Bool :=
  inRanges [(0x34F, 0x34F), (0x17B4, 0x17B5), (0x180B, 0x180D), (0x180F, 0x180F),
    (0xFE00, 0xFE0F), (0xE0100, 0xE01EF)] c.toNat

/-- The end of a ligature that a character begins. -/
def start? (c : Char) : Option Ligature :=
  let code := c.toNat
  if code == 0x5DC then some (.lamed false)
  else if inRanges [(0x622, 0x623), (0x625, 0x625), (0x627, 0x627), (0x671, 0x673),
      (0x675, 0x675), (0x773, 0x774), (0x870, 0x882)] code then some .alef
  else if inRanges [(0x1780, 0x1782), (0x1784, 0x1787), (0x1789, 0x178C), (0x178E, 0x1793),
      (0x1795, 0x1798), (0x179B, 0x179D), (0x17A0, 0x17A0), (0x17A2, 0x17A2),
      (0x17A7, 0x17A7), (0x17AB, 0x17AC), (0x17AF, 0x17AF)] code then some .khmer
  else if code == 0x1A10 then some (.ya false)
  else if inRanges [(0x2D31, 0x2D65), (0x2D6F, 0x2D6F)] code then some (.tifinagh false)
  else if inRanges [(0xA4FC, 0xA4FD)] code then some .tone
  else if code == 0x10C03 then some (.orkhon false)
  else none

end Ligature

namespace Tail

/-- What a text begins with whose first character joins nothing. -/
def start (c : Char) : Tail :=
  if isFlagLetter c then .flagLetter
  else if isSkinTone c then .skinTone
  else if isPicture c then .picture
  else
    match Ligature.start? c with
    | some rest => .ligature rest
    | none => .plain

/-- A character in front of a joined picture. -/
def joinPicture? (c : Char) : Option (Int × Tail) :=
  if c.toNat == 0x20E3 then some (0, .joinedKeycap)
  else if isFlagLetter c then some (1, .joinedFlag 1)
  else if isSkinTone c then some (0, .skinTone)
  else if c.toNat == 0xE007F then some (0, .joinedTags 0 0)
  else if isPicture c then some (0, .picture)
  else none

/-- A character in front of the tags of a flag: three to six letters, or
three digits and some letters, behind the picture of a flag. -/
def joinTags? (letters digits : Nat) (c : Char) : Option (Int × Tail) :=
  let code := c.toNat
  if 0xE0061 ≤ code && code ≤ 0xE007A then
    if digits == 0 && letters < 6 then some (0, .joinedTags (letters + 1) 0) else none
  else if 0xE0030 ≤ code && code ≤ 0xE0039 then
    if digits == 0 && letters ≤ 4 then some (0, .joinedTags 0 1)
    else if 0 < digits && digits < 3 then some (0, .joinedTags 0 (digits + 1))
    else none
  else if code == 0x1F3F4 && (3 ≤ letters || digits == 3) then some (0, .picture)
  else none

/-- A character that joins what follows it: the columns it adds and what the
text now begins with. -/
def join? (tail : Tail) (c : Char) : Option (Int × Tail) :=
  match tail with
  | .plain | .lineFeed | .joinedKeycap => none
  | .skinTone =>
    if takesSkinTone c then some (0, .picture)
    else if c = joiner then some (0, .joined)
    else none
  | .flagLetter => if isFlagLetter c then some (1, .flagLetters) else none
  | .flagLetters =>
    if isFlagLetter c then some (1, .flagLetters)
    else if c = joiner then some (0, .joined)
    else none
  | .picture => if c = joiner then some (0, .joined) else none
  | .joined => joinPicture? c
  | .joinedFlag letters =>
    if isFlagLetter c then
      some (if letters % 2 == 1 then -1 else 3, .joinedFlag (letters + 1))
    else if c = joiner && 2 ≤ letters then some (0, .joined)
    else none
  | .joinedTags letters digits => joinTags? letters digits c
  | .ligature .alef => Ligature.alef.join? c
  | .ligature rest =>
    if c = joiner then some (0, .ligature rest.joined)
    else if Ligature.isPassed c then some (0, .ligature rest)
    else rest.join? c

/-- Puts a character in front: the columns it adds and what the text now
begins with. -/
def step (tail : Tail) (c : Char) : Int × Tail :=
  (tail.join? c).getD (charWidth c, start c)

end Tail

/-- The start of a text together with the variation selectors in front of
it. -/
structure Following where
  tail : Tail := .plain
  asPicture : Bool := false
  asText : Bool := false
  deriving DecidableEq

namespace Following

/-- The text with a selector for pictures in front. -/
def selectPicture (next : Following) : Following :=
  match next.tail with
  | .ligature _ | .joined | .joinedKeycap => { next with asPicture := true }
  | _ => { asPicture := true }

/-- The text with a selector for text in front. -/
def selectText (next : Following) : Following :=
  match next.tail with
  | .ligature _ => { next with asText := true }
  | _ => { asText := true }

/-- The text once its selector for pictures has found no character. -/
def dropPicture (next : Following) : Following :=
  if !next.asPicture then next
  else
    match next.tail with
    | .ligature _ => { next with asPicture := false }
    | _ => {}

/-- Puts a character in front: the columns it adds and the text with it. -/
def step (next : Following) (c : Char) : Int × Following :=
  if next.asPicture && isSelectable c then
    (if next.tail = .joined ∨ next.tail = .joinedKeycap then 0 else 2, { tail := .picture })
  else
    let next := next.dropPicture
    if c = '\n' then (1, { tail := .lineFeed })
    else if c = '\r' then (if next.tail = .lineFeed then 0 else 1, {})
    else if c.toNat ≤ 0xA0 then (1, {})
    else if c.toNat == 0xFE0F then (0, next.selectPicture)
    else if c.toNat == 0xFE0E then (0, next.selectText)
    else if next.asText && isTextual c then (1, {})
    else
      let (columns, tail) := next.tail.step c
      (columns, { tail })

end Following

/-- The columns of a text and what it begins with. -/
def extent (text : Text) : Int × Following :=
  text.foldr (fun c rest =>
    let (columns, following) := rest.2.step c
    (rest.1 + columns, following)) (0, {})

def width (text : Text) : Nat :=
  (extent text).1.toNat

end Text
end ClassExpr
